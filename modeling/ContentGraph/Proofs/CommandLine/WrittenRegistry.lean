import ContentGraph.CommandLine.Compile
import ContentGraph.CommandLine.Materialize
import ContentGraph.Proofs.Collection.Names
import ContentGraph.Proofs.Collection.Printed
import ContentGraph.Proofs.FileTree
import ContentGraph.Proofs.Registry.Stored

/-!
# The written registry

A compilation goes through several checks before it writes anything, and the registry that it writes
is all that a later materialization knows of the custom type.  Nothing is written unless everything
succeeds, and what is written stands for the registry itself.

* `compileIn`, `materializeIn` — the two commands over a tree of files, the first with a record of
  its writes;
* `Compiles`, `CannotCompile` — a custom type that is read and compiled, and the reasons why there
  is none;
* `compileIn_of_compiles`, `compileIn_of_cannotCompile` — a compilation in both cases;
* `materializeIn_of_holds` — a materialization along a file that holds a registry;
* `compileFile_writes_registry` — what is written when, and what it is good for.
-/

namespace ContentGraph.CommandLine

/-! ### Commands over trees of files -/

/-- A compilation in a tree of files: its result, and the tree with a record of what was written. -/
def compileIn (tree : FileTree) (typePrefix : String) (command : CompileCommand) :
    Except CommandError String × RecordedTree :=
  (compileFile typePrefix command : StateM RecordedTree (Except CommandError String)).run { tree }

/-- The result of a materialization in a tree of files. -/
def materializeIn (files : FileTree) (env : Environment) (command : MaterializeCommand) :
    Except CommandError Materialized :=
  ((materializeFile env command : StateM FileTree (Except CommandError Materialized)).run files).1

/-- The document that a file holds. -/
def documentIn (files : FileTree) (path : String) : Except CommandError Json :=
  match files.readText? path with
  | none => .error (.missingFile path)
  | some source =>
    match Json.parseValue source with
    | none => .error (.malformedFile path)
    | some document => .ok document

/-- A file holds a custom type that compiles under a prefix that can be used. -/
structure Compiles (tree : FileTree) (typePrefix : String) (command : CompileCommand)
    (compiled : CompiledType) :
    Prop where
  valid : ValidTypePrefix typePrefix
  read : ∃ source type, tree.readText? command.schema = some source ∧
    (Json.parse source).bind CustomType.ofJson? = some type ∧
    compile ⟨typePrefix⟩ command.id type = .ok compiled

/-- Why nothing is compiled: the model is missing or is no custom type, the prefix cannot be used,
or the custom type does not compile. -/
inductive CannotCompile (tree : FileTree) (typePrefix : String) (command : CompileCommand) : Prop
  | missing (read : tree.readText? command.schema = none)
  | malformed {source : String} (read : tree.readText? command.schema = some source)
      (parsed : (Json.parse source).bind CustomType.ofJson? = none)
  | invalid (faulty : ¬ValidTypePrefix typePrefix)
  | refused {source : String} {type : CustomType} {cause : SchemaError}
      (read : tree.readText? command.schema = some source)
      (parsed : (Json.parse source).bind CustomType.ofJson? = some type)
      (cause_eq : compile ⟨typePrefix⟩ command.id type = .error cause)

variable {tree : FileTree} {typePrefix : String} {command : CompileCommand}
  {compiled : CompiledType}

/-- A custom type is compiled unless there is a reason why not. -/
theorem exists_compiles_iff (tree : FileTree) (typePrefix : String) (command : CompileCommand) :
    (∃ compiled, Compiles tree typePrefix command compiled) ↔
      ¬CannotCompile tree typePrefix command := by
  constructor
  · rintro ⟨compiled, valid, source, type, hread, hparsed, hcompiled⟩ hcannot
    cases hcannot with
    | missing hmissing => rw [hmissing] at hread; cases hread
    | malformed hother hmalformed =>
      rw [hother, Option.some.injEq] at hread
      rw [← hread, hmalformed] at hparsed
      cases hparsed
    | invalid faulty => exact faulty valid
    | refused hother hsame hcause =>
      rw [hother, Option.some.injEq] at hread
      rw [← hread, hsame, Option.some.injEq] at hparsed
      rw [← hparsed, hcause] at hcompiled
      cases hcompiled
  · intro hcannot
    cases hread : tree.readText? command.schema with
    | none => exact absurd (.missing hread) hcannot
    | some source =>
      cases hparsed : (Json.parse source).bind CustomType.ofJson? with
      | none => exact absurd (.malformed hread hparsed) hcannot
      | some type =>
        by_cases valid : ValidTypePrefix typePrefix
        · cases hcompiled : compile ⟨typePrefix⟩ command.id type with
          | error cause => exact absurd (.refused hread hparsed hcompiled) hcannot
          | ok compiled => exact ⟨compiled, valid, source, type, hread, hparsed, hcompiled⟩
        · exact absurd (.invalid valid) hcannot

/-! ### Compilations -/

/-- A compilation step by step: nothing is written before the model is read and compiled. -/
theorem compileIn_eq (tree : FileTree) (typePrefix : String) (command : CompileCommand) :
    compileIn tree typePrefix command =
      match tree.readText? command.schema with
      | none => (.error (.missingSchema command.schema), { tree })
      | some source =>
        match compileSource typePrefix command source with
        | .error e => (.error e, { tree })
        | .ok compiled =>
          let output := renderCompiled typePrefix command.format compiled
          match command.outPaths with
          | none => (.ok output, { tree })
          | some path =>
            match tree.writeText? path (registryText compiled.paths) with
            | some next => (.ok output, ⟨next, [(path, registryText compiled.paths)]⟩)
            | none => (.error (.unwritten path), { tree }) := by
  rw [compileIn, compileFile, RecordedTree.run_readText]
  cases tree.readText? command.schema with
  | none => rfl
  | some source =>
    dsimp only
    cases compileSource typePrefix command source with
    | error e => rfl
    | ok compiled =>
      dsimp only
      cases command.outPaths with
      | none => rfl
      | some path =>
        dsimp only
        rw [RecordedTree.run_writeText]
        cases tree.writeText? path (registryText compiled.paths) <;> rfl

/-- **Nothing compiled, nothing written**: the command fails and leaves every file as it was. -/
theorem compileIn_of_cannotCompile (h : CannotCompile tree typePrefix command) :
    ∃ e, compileIn tree typePrefix command = (.error e, { tree }) := by
  have hnone : ∀ source compiled, tree.readText? command.schema = some source →
      compileSource typePrefix command source ≠ .ok compiled := by
    intro source compiled hread hcompiled
    obtain ⟨valid, -⟩ := exists_of_compileSource hcompiled
    cases hparsed : (Json.parse source).bind CustomType.ofJson? with
    | none =>
      rw [compileSource, hparsed] at hcompiled
      cases hcompiled
    | some type =>
      have hcompile := ((compileSource_eq_ok_iff hparsed).mp hcompiled).2
      exact (exists_compiles_iff tree typePrefix command).mp
        ⟨compiled, valid, source, type, hread, hparsed, hcompile⟩ h
  rw [compileIn_eq]
  cases hread : tree.readText? command.schema with
  | none => exact ⟨_, rfl⟩
  | some source =>
    dsimp only
    cases hcompiled : compileSource typePrefix command source with
    | error e => exact ⟨e, rfl⟩
    | ok compiled => exact absurd hcompiled (hnone source compiled hread)

/-- **A compiled type's registry is written last**: after that, only the output is left. -/
theorem compileIn_of_compiles (h : Compiles tree typePrefix command compiled) :
    compileIn tree typePrefix command =
      match command.outPaths with
      | none => (.ok (renderCompiled typePrefix command.format compiled), { tree })
      | some path =>
        match tree.writeText? path (registryText compiled.paths) with
        | some next =>
          (.ok (renderCompiled typePrefix command.format compiled),
            ⟨next, [(path, registryText compiled.paths)]⟩)
        | none => (.error (.unwritten path), { tree }) := by
  obtain ⟨valid, source, type, hread, hparsed, hcompile⟩ := h
  have hcompiled : compileSource typePrefix command source = .ok compiled :=
    (compileSource_eq_ok_iff hparsed).mpr ⟨(typePrefixFault?_eq_none_iff typePrefix).mpr valid,
      hcompile⟩
  rw [compileIn_eq, hread]
  dsimp only
  rw [hcompiled]

/-- A write that does not fail is the last thing that happens. -/
theorem exists_writeText?_of_compiles (h : Compiles tree typePrefix command compiled)
    {path : String} (hout : command.outPaths = some path)
    (written : (compileIn tree typePrefix command).1 ≠ .error (.unwritten path)) :
    ∃ next, tree.writeText? path (registryText compiled.paths) = some next ∧
      compileIn tree typePrefix command =
        (.ok (renderCompiled typePrefix command.format compiled),
          ⟨next, [(path, registryText compiled.paths)]⟩) := by
  have hrun := compileIn_of_compiles h
  rw [hout] at hrun
  dsimp only at hrun
  cases hwrite : tree.writeText? path (registryText compiled.paths) with
  | none =>
    rw [hwrite] at hrun
    exact absurd (by rw [hrun]) written
  | some next =>
    rw [hwrite] at hrun
    exact ⟨next, rfl, hrun⟩

/-- The format of the output changes no file. -/
theorem snd_compileIn_format (format : OutputFormat) :
    (compileIn tree typePrefix { command with format }).2 =
      (compileIn tree typePrefix command).2 := by
  rw [compileIn_eq, compileIn_eq]
  cases tree.readText? command.schema with
  | none => rfl
  | some source =>
    have hsame : compileSource typePrefix { command with format } source =
        compileSource typePrefix command source := rfl
    dsimp only
    rw [hsame]
    cases compileSource typePrefix command source with
    | error e => rfl
    | ok compiled =>
      dsimp only
      cases command.outPaths with
      | none => rfl
      | some path =>
        dsimp only
        cases tree.writeText? path (registryText compiled.paths) <;> rfl

/-! ### Materializations -/

/-- The text of a registry stands for the registry. -/
theorem parse_registryText (registry : Registry) :
    (Json.parse (registryText registry)).bind Registry.ofJson? = some registry := by
  rw [registryText, Registry.parse_pretty, Option.bind_some, Registry.ofJson?_toJson]

/-- **A materialization along a file** that holds a registry is one along that registry. -/
theorem materializeIn_of_holds {files : FileTree} {command : MaterializeCommand} {text : String}
    {registry : Registry} (env : Environment) (hread : files.readText? command.paths = some text)
    (hparsed : (Json.parse text).bind Registry.ofJson? = some registry) :
    materializeIn files env command =
      (documentIn files command.document).bind fun document =>
        (materialize env registry document).mapError .notMaterialized := by
  rw [materializeIn, materializeFile, FileTree.run_readText, documentIn]
  cases files.readText? command.document with
  | none => rfl
  | some source =>
    dsimp only
    cases Json.parseValue source with
    | none => rfl
    | some document =>
      dsimp only
      rw [FileTree.run_readText, hread]
      show materializeSources env command document text = _
      rw [materializeSources, hparsed]
      rfl

/-! ### What is written when -/

/-- **The registry is written exactly on success.**  Of a compilation whose writes succeed: it
writes its file exactly when it succeeds; it fails exactly when the model is missing or malformed,
the prefix cannot be used or the custom type does not compile, and then leaves all files as they
were.  When it succeeds, the file is read back as the registry of the compiled type, whatever is
printed, and materializing along the file is materializing along that registry. -/
theorem compileFile_writes_registry
    (written : ∀ path, (compileIn tree typePrefix command).1 ≠ .error (.unwritten path)) :
    (∀ out, command.outPaths = some out →
      ((∃ text, (out, text) ∈ (compileIn tree typePrefix command).2.writes) ↔
        ∃ output, (compileIn tree typePrefix command).1 = .ok output)) ∧
    ((∃ e, (compileIn tree typePrefix command).1 = .error e) ↔
      CannotCompile tree typePrefix command) ∧
    (CannotCompile tree typePrefix command → (compileIn tree typePrefix command).2 = { tree }) ∧
    ∀ output out, (compileIn tree typePrefix command).1 = .ok output → command.outPaths = some out →
      ∃ compiled text, Compiles tree typePrefix command compiled ∧
        (compileIn tree typePrefix command).2.writes = [(out, text)] ∧
        (compileIn tree typePrefix command).2.tree.readText? out = some text ∧
        (Json.parse text).bind Registry.ofJson? = some compiled.paths ∧
        (∀ format, (compileIn tree typePrefix { command with format }).2 =
          (compileIn tree typePrefix command).2) ∧
        ∀ files env materialization, files.readText? materialization.paths = some text →
          materializeIn files env materialization =
            (documentIn files materialization.document).bind fun document =>
              (materialize env compiled.paths document).mapError .notMaterialized := by
  by_cases hcannot : CannotCompile tree typePrefix command
  · obtain ⟨e, hrun⟩ := compileIn_of_cannotCompile hcannot
    rw [hrun]
    simp [hcannot]
  · obtain ⟨compiled, hcompiles⟩ := (exists_compiles_iff tree typePrefix command).mpr hcannot
    cases hout : command.outPaths with
    | none =>
      have hrun := compileIn_of_compiles hcompiles
      rw [hout] at hrun
      simp [hrun, hcannot]
    | some path =>
      obtain ⟨next, hwrite, hrun⟩ := exists_writeText?_of_compiles hcompiles hout (written path)
      refine ⟨?_, ?_, fun h => absurd h hcannot, ?_⟩
      · intro out hsame
        cases hsame
        rw [hrun]
        simp
      · rw [hrun]
        simp [hcannot]
      · intro output out _ hsame
        cases hsame
        refine ⟨compiled, registryText compiled.paths, hcompiles, by rw [hrun], ?_,
          parse_registryText _, ?_, ?_⟩
        · rw [hrun]
          exact FileTree.readText?_of_writeText? hwrite
        · intro format
          rw [← hout]
          exact snd_compileIn_format format
        · intro files env materialization hread
          exact materializeIn_of_holds env hread (parse_registryText compiled.paths)

/-- The sample type next to a free name: its registry is written there and can be materialized
along. -/
theorem compileFile_writes_registry_sample :
    let tree : FileTree := { entries := [("s.json", .file CustomType.sample.toJson.compact)] }
    let command : CompileCommand := { schema := "s.json", id := "page", outPaths := some "p.json" }
    (∀ path, (compileIn tree "Prismic" command).1 ≠ .error (.unwritten path)) ∧
      ∃ compiled text, (compileIn tree "Prismic" command).2.writes = [("p.json", text)] ∧
        (compileIn tree "Prismic" command).2.tree.readText? "p.json" = some text ∧
        (Json.parse text).bind Registry.ofJson? = some (compiled : CompiledType).paths := by
  intro tree command
  obtain ⟨compiled, hcompile⟩ := exists_compile_sample
  have hread : tree.readText? "s.json" = some CustomType.sample.toJson.compact := by rfl
  have hcompiles : Compiles tree "Prismic" command compiled :=
    ⟨by decide, CustomType.sample.toJson.compact, .sample, hread, read_sample, hcompile⟩
  have hfree : tree.locate? "p.json" = some ["p.json"] := by rfl
  obtain ⟨next, hwrite⟩ : ∃ next, tree.writeText? "p.json" (registryText compiled.paths) =
      some next :=
    FileTree.exists_writeText? hfree nofun (by decide) _
  -- what the files hold does not matter from here on
  clear_value tree
  have hrun := compileIn_of_compiles hcompiles
  have written : ∀ path, (compileIn tree "Prismic" command).1 ≠ .error (.unwritten path) := by
    intro path
    rw [hrun]
    simp only [command, hwrite]
    exact fun h => nomatch h
  refine ⟨written, ?_⟩
  obtain ⟨found, text, -, hwrites, hholds, hparsed, -⟩ :=
    (compileFile_writes_registry written).2.2.2
    (renderCompiled "Prismic" .sdl compiled) "p.json"
      (by rw [hrun]; simp only [command, hwrite]) rfl
  exact ⟨found, text, hwrites, hholds, hparsed⟩

end ContentGraph.CommandLine
