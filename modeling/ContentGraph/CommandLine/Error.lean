import ContentGraph.Compilation
import ContentGraph.Materialization
import ContentGraph.Settings

/-!
# Why a command fails

`CommandError` names the causes; `CommandError.message` is what a command reports.
-/

namespace ContentGraph.CommandLine

/-- Why a command fails. -/
inductive CommandError
  /-- The model of the custom type cannot be read. -/
  | missingSchema (path : String)
  /-- The file is no model of a custom type. -/
  | malformedSchema (path : String)
  /-- The prefix of type names cannot be used. -/
  | prefixFault (fault : SettingFault)
  /-- The custom type cannot be compiled. -/
  | notCompiled (cause : SchemaError)
  /-- The registry cannot be written. -/
  | unwritten (path : String)
  /-- A document or a registry cannot be read. -/
  | missingFile (path : String)
  /-- The file does not hold what it should. -/
  | malformedFile (path : String)
  /-- The document cannot be materialized. -/
  | notMaterialized (cause : DocumentError)
  deriving DecidableEq, Repr

/-- What an error reports. -/
def CommandError.message : CommandError → String
  | .missingSchema path => "Failed to read schema " ++ path
  | .malformedSchema path => "Invalid custom type schema " ++ path
  | .prefixFault fault => fault.message
  | .notCompiled cause => cause.message
  | .unwritten path => "Failed to write type paths to " ++ path
  | .missingFile path => "Failed to read " ++ path
  | .malformedFile path => "Invalid JSON in " ++ path
  | .notMaterialized cause => cause.message

end ContentGraph.CommandLine
