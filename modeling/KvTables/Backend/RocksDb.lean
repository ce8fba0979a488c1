import KvTables.Failure
import KvTables.Json.FromText
import KvTables.Json.FromValue
import KvTables.Reading.Record

/-! Configs of RocksDB tables: parameters given inline or loaded from a file.

The parameters are loaded when the config is built and are not looked at otherwise, apart from the
options the table understands.
-/

set_option autoImplicit false

namespace KvTables.Backend

structure RocksDb where
  params : Json.Object

namespace RocksDb

def standardPath : String := "/tmp/rocksdb_config.json"

def standardExportPath : String := "/tmp/db.dump"

def standard : RocksDb := ⟨.empty⟩

def fromPath (path : String) (files : Files) : Logged (Except Failure RocksDb) :=
  match files.read path with
  | .error cause => do
    Logged.line .error (s!"Failed to read RocksDB config '{path}': " ++ cause.message)
    pure (.error (.configRead path cause))
  | .ok content => do
    match ← (Json.readText Reading.object content).run files with
    | .error cause =>
      Logged.line .error (s!"Failed to parse RocksDB config '{path}': " ++ cause.message .json)
      pure (.error (.configParse path cause))
    | .ok params =>
      Logged.line .debug s!"Loaded {params.fields.length} RocksDB parameters from '{path}'"
      pure (.ok ⟨params⟩)

def loadStandard (files : Files) : Logged (Except Failure RocksDb) := fromPath standardPath files

/-- Parameters from a loosely typed source: a text is a path, an object the parameters. -/
def fromValue (source : Json.Value) (files : Files) : Logged (Except Failure RocksDb) :=
  match source with
  | ⟨.str path, _⟩ => fromPath path files
  | ⟨.obj fields, canonical⟩ => pure (.ok ⟨⟨fields, canonical⟩⟩)
  | ⟨.null, _⟩ => refuse "null"
  | ⟨.bool _, _⟩ => refuse "bool"
  | ⟨.num _, _⟩ => refuse "number"
  | ⟨.arr _, _⟩ => refuse "array"
where
  refuse (name : String) : Logged (Except Failure RocksDb) :=
    pure (.error (.invalidArgument (.sourceType name)))

/-- A config as it is written: a file to load or inline parameters. -/
structure Written where
  src : Option String
  params : Option Json.Object

def Written.load (written : Written) (files : Files) : Logged (Except Failure RocksDb) :=
  match written.src, written.params with
  | some path, none => fromPath path files
  | none, some params => pure (.ok ⟨params⟩)
  | some _, some _ => pure (.error (.invalidArgument .bothSources))
  | none, none => pure (.error (.invalidArgument .noSource))

inductive Field where
  | src | params
  deriving DecidableEq, Repr

def Field.Value : Field → Type
  | .src => Option String
  | .params => Option Json.Object

def shape : Shape Field Field.Value where
  title := "struct RocksDbTableSource"
  fields := [.src, .params]
  complete field := by cases field <;> decide
  name
    | .src => "src"
    | .params => "params"
  aliases _ := []
  absent
    | .src => some none
    | .params => some none

def toFields (config : RocksDb) : List (String × Json) := [("params", config.params.toJson)]

def toJson (config : RocksDb) : Json := .obj config.toFields

variable {ν : Type} [Source ν]

def readField : (field : Field) → ν → Reading field.Value
  | .src => Reading.optional (Source.text "path string")
  | .params => Reading.optional Reading.object

/-- A file is loaded only once the whole config has been read and found in order. -/
def read (value : ν) : Reading RocksDb := do
  let fields ← shape.read readField value
  Reading.consult fun files =>
    (Written.load ⟨fields .src, fields .params⟩ files).map
      (·.mapError fun failure => .refused failure.message)

end RocksDb

end KvTables.Backend
