import KvTables.Backend.RocksDb

/-! The parameters that a RocksDB table understands. -/

set_option autoImplicit false

namespace KvTables.Backend.RocksDb

structure Options where
  databasePath : String
  embeddingName : String
  readOnly : Bool
  estimateSize : Bool
  exportPath : Option String
  deriving DecidableEq, Repr

namespace Options

def exportPathOrStandard (options : Options) : String :=
  options.exportPath.getD standardExportPath

def toJson (options : Options) : Json :=
  .obj ([("database_path", .str options.databasePath),
    ("embedding_name", .str options.embeddingName),
    ("read_only", .bool options.readOnly),
    ("estimate_size", .bool options.estimateSize)] ++
    Json.field "export_path" (options.exportPath.map .str))

inductive Field where
  | databasePath | embeddingName | readOnly | estimateSize | exportPath
  deriving DecidableEq, Repr

def Field.Value : Field → Type
  | .databasePath | .embeddingName => String
  | .readOnly | .estimateSize => Bool
  | .exportPath => Option String

def shape : Shape Field Field.Value where
  title := "struct RocksDbOptions"
  fields := [.databasePath, .embeddingName, .readOnly, .estimateSize, .exportPath]
  complete field := by cases field <;> decide
  name
    | .databasePath => "database_path"
    | .embeddingName => "embedding_name"
    | .readOnly => "read_only"
    | .estimateSize => "estimate_size"
    | .exportPath => "export_path"
  aliases _ := []
  absent
    | .databasePath | .embeddingName => none
    | .readOnly | .estimateSize => some false
    | .exportPath => some none

variable {ν : Type} [Source ν]

def readField : (field : Field) → ν → Reading field.Value
  | .databasePath | .embeddingName => Source.text "a string"
  | .readOnly | .estimateSize => Source.flag
  | .exportPath => Reading.optional (Source.text "a string")

def read (value : ν) : Reading Options := do
  let fields ← shape.read readField value
  return {
    databasePath := fields .databasePath
    embeddingName := fields .embeddingName
    readOnly := fields .readOnly
    estimateSize := fields .estimateSize
    exportPath := fields .exportPath }

def isAbsolute (path : String) : Bool := path.toList.head? == some '/'

end Options

/-- The options among the parameters. A relative database path is taken, with a warning. -/
def options (config : RocksDb) : Logged (Except Failure Options) := do
  match ← (Options.read config.params.toJson).run Files.initial with
  | .error cause => pure (.error (.invalidParams cause))
  | .ok options =>
    if Options.isAbsolute options.databasePath then pure (.ok options)
    else do
      Logged.line .warn (s!"RocksDB database_path '{options.databasePath}' is relative, " ++
        "it resolves against the working directory")
      pure (.ok options)

end KvTables.Backend.RocksDb
