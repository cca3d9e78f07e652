/-!
# Command line arguments

Arguments name a command, its options and its files.  Options may stand before or after files, and
may hold their value in the same argument, as in `--id=page`.  Two hyphens on their own end the
options.

* `Form` — the options and files that a command takes;
* `Form.read` — what arguments give to a form;
* `parseArguments` — the command that arguments ask for.
-/

namespace ContentGraph.CommandLine

/-! ### Commands -/

/-- How a compiled type is printed. -/
inductive OutputFormat
  | sdl | json
  deriving DecidableEq, Repr

/-- The format with a name. -/
def OutputFormat.ofName? (name : String) : Option OutputFormat :=
  if name = "sdl" then some .sdl
  else if name = "json" then some .json
  else none

/-- The compilation of a custom type. -/
structure CompileCommand where
  /-- The file of the custom type's model. -/
  schema : String
  /-- The id of the custom type. -/
  id : String
  format : OutputFormat := .sdl
  /-- The file that the registry is written to. -/
  outPaths : Option String := none
  /-- The prefix of type names, when it is not the configured one. -/
  typePrefix : Option String := none
  deriving DecidableEq, Repr

/-- The materialization of a document. -/
structure MaterializeCommand where
  /-- The file of the document. -/
  document : String
  /-- The file of the registry. -/
  paths : String
  /-- Whether images are downloaded even if that is not configured. -/
  normalizeImages : Bool := false
  deriving DecidableEq, Repr

/-- What is to be done. -/
inductive Command
  | compile (command : CompileCommand)
  | materialize (command : MaterializeCommand)
  deriving DecidableEq, Repr

/-- Why arguments name no command. -/
inductive Refusal
  /-- They ask for the version. -/
  | version
  /-- They ask for help. -/
  | help
  /-- They cannot be understood. -/
  | usage
  deriving DecidableEq, Repr

/-! ### Forms -/

/-- What may be given. -/
structure Form where
  /-- The options that take a value. -/
  options : List String := []
  /-- The options that take none. -/
  flags : List String := ["debug"]
  /-- Whether the version may be asked for. -/
  showsVersion : Bool := false
  /-- How many files may be named. -/
  files : Nat := 0
  /-- Whether an option may have a value. -/
  accepts : (option value : String) → Bool := fun _ _ => true

/-- What was given. -/
structure Given where
  options : List (String × String) := []
  flags : List String := []
  files : List String := []
  deriving DecidableEq, Repr

namespace Form

/-- What is given with one more option, which is given only once and may have the value. -/
def addOption? (form : Form) (name value : String) (given : Given) : Option Given :=
  if (given.options.lookup name).isSome || !form.accepts name value then none
  else some { given with options := given.options ++ [(name, value)] }

/-- What is given with one more flag, which is given only once. -/
def addFlag? (name : String) (given : Given) : Option Given :=
  if given.flags.contains name then none else some { given with flags := given.flags ++ [name] }

/-- What is given with one more file, if more are expected. -/
def addFile? (form : Form) (file : String) (given : Given) : Option Given :=
  if given.files.length < form.files && file ≠ "" then
    some { given with files := given.files ++ [file] } else none

/-- Whether an argument is an option rather than a value. -/
def isOption (argument : String) : Bool :=
  match argument.toList with
  | '-' :: _ :: _ => true
  | _ => false

/-- What is given with options of one letter. -/
def readShort (form : Form) (given : Given) : List Char → Except Refusal Given
  | [] => .ok given
  | letter :: rest =>
    if letter = 'h' then .error .help
    else if letter = 'V' && form.showsVersion then .error .version
    else if letter = 'd' && form.flags.contains "debug" then
      match addFlag? "debug" given with
      | some given => readShort form given rest
      | none => .error .usage
    else .error .usage

/-- What is given with files only. -/
def readFiles (form : Form) (given : Given) : List String → Except Refusal Given
  | [] => .ok given
  | file :: rest =>
    match form.addFile? file given with
    | some given => readFiles form given rest
    | none => .error .usage

/-- What is given with an option without a value in its argument. -/
def readFlag (form : Form) (name : String) (given : Given) : Except Refusal Given :=
  if name = "help" then .error .help
  else if name = "version" && form.showsVersion then .error .version
  else if form.flags.contains name then
    match addFlag? name given with
    | some given => .ok given
    | none => .error .usage
  else .error .usage

/-- What arguments give, from left to right, up to the first one that cannot be used. -/
def read (form : Form) (given : Given) : List String → Except Refusal Given
  | [] => .ok given
  | argument :: rest =>
    match argument.toList with
    | ['-', '-'] => form.readFiles given rest
    | '-' :: '-' :: long =>
      let name := String.ofList (long.takeWhile (· ≠ '='))
      match long.dropWhile (· ≠ '=') with
      | _ :: value =>
        if form.options.contains name then
          match form.addOption? name (String.ofList value) given with
          | some given => read form given rest
          | none => .error .usage
        else .error .usage
      | [] =>
        if form.options.contains name then
          match rest with
          | [] => .error .usage
          | value :: rest =>
            if isOption value then .error .usage
            else match form.addOption? name value given with
              | some given => read form given rest
              | none => .error .usage
        else
          match form.readFlag name given with
          | .ok given => read form given rest
          | .error refusal => .error refusal
    | '-' :: letter :: letters =>
      match form.readShort given (letter :: letters) with
      | .ok given => read form given rest
      | .error refusal => .error refusal
    | _ =>
      match form.addFile? argument given with
      | some given => read form given rest
      | none => .error .usage

end Form

/-! ### Commands from arguments -/

/-- What the compilation takes. -/
def compileForm : Form where
  options := ["id", "format", "out-paths", "type-prefix"]
  files := 1
  accepts option value :=
    if option = "format" then (OutputFormat.ofName? value).isSome
    else if option = "out-paths" then value ≠ ""
    else true

/-- What the materialization takes. -/
def materializeForm : Form where
  options := ["paths"]
  flags := ["debug", "normalize-images"]
  files := 1
  accepts option value := if option = "paths" then value ≠ "" else true

/-- The compilation that is given. -/
def compileCommand? (given : Given) : Option Command :=
  match given.files, given.options.lookup "id" with
  | [schema], some id =>
    some (.compile
      { schema, id
        format := ((given.options.lookup "format").bind OutputFormat.ofName?).getD .sdl
        outPaths := given.options.lookup "out-paths"
        typePrefix := given.options.lookup "type-prefix" })
  | _, _ => none

/-- The materialization that is given. -/
def materializeCommand? (given : Given) : Option Command :=
  match given.files, given.options.lookup "paths" with
  | [document], some paths =>
    some (.materialize
      { document, paths, normalizeImages := given.flags.contains "normalize-images" })
  | _, _ => none

/-- The arguments before the first one that is no option, and those from it on. -/
def splitCommand : List String → List String × List String
  | [] => ([], [])
  | argument :: rest =>
    if Form.isOption argument then (argument :: (splitCommand rest).1, (splitCommand rest).2)
    else ([], argument :: rest)

/-- The command of arguments that give its parts to a form. -/
def readCommand (form : Form) (build? : Given → Option Command) (arguments : List String) :
    Except Refusal Command :=
  match form.read {} arguments with
  | .error refusal => .error refusal
  | .ok given =>
    match build? given with
    | some command => .ok command
    | none => .error .usage

/-- The command that arguments ask for. -/
def parseArguments (arguments : List String) : Except Refusal Command :=
  let (options, rest) := splitCommand arguments
  let front : Form := { showsVersion := true }
  match front.read {} options with
  | .error refusal => .error refusal
  | .ok _ =>
    if options.contains "--" then .error .usage
    else match rest with
      | "compile" :: arguments => readCommand compileForm compileCommand? arguments
      | "materialize" :: arguments => readCommand materializeForm materializeCommand? arguments
      | ["help"] | ["help", "compile"] | ["help", "materialize"] | ["help", "help"] => .error .help
      | _ => .error .usage

end ContentGraph.CommandLine
