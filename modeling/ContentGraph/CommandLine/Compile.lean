import ContentGraph.Collection
import ContentGraph.CommandLine.Arguments
import ContentGraph.CommandLine.Error
import ContentGraph.Compilation.Stored
import ContentGraph.FileTree
import ContentGraph.Json.Reader
import ContentGraph.Json.Writer
import ContentGraph.Schema.Stored

/-!
# Compiling a file

The compilation of a custom type's file prints every declaration that serving the type needs, and
may write its registry to another file.  Nothing is written unless everything before has succeeded.

* `compileSource` — the compiled type of a file's text;
* `servedDeclarations` — the declarations that are printed;
* `compileFile` — the whole command.
-/

namespace ContentGraph.CommandLine

/-- The compiled type of a text, under a prefix that can be used. -/
def compileSource (typePrefix : String) (command : CompileCommand) (source : String) :
    Except CommandError CompiledType :=
  match (Json.parse source).bind CustomType.ofJson? with
  | none => .error (.malformedSchema command.schema)
  | some type =>
    match typePrefixFault? typePrefix with
    | some fault => .error (.prefixFault fault)
    | none => (compile ⟨typePrefix⟩ command.id type).mapError .notCompiled

/-- The declarations that serving a compiled type needs: the shared ones, its own, the union of
documents and the type of thumbnails. -/
def servedDeclarations (naming : TypeNaming) (compiled : CompiledType) : List TypeDeclaration :=
  let declarations := sharedDeclarations naming ++ compiled.declarations
  declarations ++ [TypeDeclaration.union (documentUnion naming declarations),
    thumbnailsType naming compiled.paths.entries]

/-- The registry as it is written to a file. -/
def registryText (paths : Registry) : String := paths.toJson.pretty

/-- What is printed of a compiled type. -/
def renderCompiled (typePrefix : String) (format : OutputFormat)
    (compiled : CompiledType) : String :=
  let declarations := servedDeclarations ⟨typePrefix⟩ compiled
  match format with
  | .sdl => renderAll declarations
  | .json => ({ compiled with declarations } : CompiledType).toJson.pretty

variable {m : Type → Type} [Monad m] [FileAccess m]

/-- The compilation of a file: what is printed.  The registry is written last. -/
def compileFile (typePrefix : String)
    (command : CompileCommand) : m (Except CommandError String) := do
  match ← FileAccess.readText command.schema with
  | none => pure (.error (.missingSchema command.schema))
  | some source =>
    match compileSource typePrefix command source with
    | .error e => pure (.error e)
    | .ok compiled =>
      let output := renderCompiled typePrefix command.format compiled
      match command.outPaths with
      | none => pure (.ok output)
      | some path =>
        if ← FileAccess.writeText path (registryText compiled.paths) then pure (.ok output)
        else pure (.error (.unwritten path))

end ContentGraph.CommandLine
