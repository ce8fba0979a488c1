import KvTables.Backend.Document
import KvTables.Backend.RocksDb.Options
import KvTables.Json.Printer
import KvTables.Table.Spec
import KvTables.Yaml.FromText

/-! The types that have a written form, and the notations they can be read from. -/

set_option autoImplicit false

namespace KvTables

open Backend

inductive Form where
  | dtype | defaultValue | tableArgs | tableSpec
  | kind | cuckoo | redis | rocksDb | rocksDbOptions
  | config | named | reference | document
  deriving DecidableEq, Repr

namespace Form

def Value : Form → Type
  | .dtype => DType
  | .defaultValue => DefaultValue
  | .tableArgs => TableArgs
  | .tableSpec => TableSpec
  | .kind => Kind
  | .cuckoo => Cuckoo
  | .redis => Redis
  | .rocksDb => RocksDb
  | .rocksDbOptions => RocksDb.Options
  | .config => Config
  | .named => Named
  | .reference => Reference
  | .document => Document

def read {ν : Type} [Source ν] : (form : Form) → ν → Reading form.Value
  | .dtype => DType.read
  | .defaultValue => DefaultValue.read
  | .tableArgs => TableArgs.read
  | .tableSpec => TableSpec.read
  | .kind => Kind.read
  | .cuckoo => Cuckoo.read
  | .redis => Redis.read
  | .rocksDb => RocksDb.read
  | .rocksDbOptions => RocksDb.Options.read
  | .config => Config.read
  | .named => Named.read
  | .reference => Reference.read
  | .document => Document.read

def toJson : (form : Form) → form.Value → Json
  | .dtype => DType.toJson
  | .defaultValue => DefaultValue.toJson
  | .tableArgs => TableArgs.toJson
  | .tableSpec => TableSpec.toJson
  | .kind => Kind.toJson
  | .cuckoo => Cuckoo.toJson
  | .redis => Redis.toJson
  | .rocksDb => RocksDb.toJson
  | .rocksDbOptions => RocksDb.Options.toJson
  | .config => Config.toJson
  | .named => Named.toJson
  | .reference => Reference.toJson
  | .document => Document.toJson

def toText (form : Form) (value : form.Value) : String := (form.toJson value).toText

def toValue (form : Form) (value : form.Value) : Json.Value := .ofJson (form.toJson value)

def readText (form : Form) (text : String) : Reading form.Value := Json.readText form.read text

def readValue (form : Form) (value : Json.Value) : Reading form.Value := form.read value.json

def readYaml (form : Form) (text : String) : Reading form.Value := Yaml.readText form.read text

/-- Whether a value's text is read as a value with the same text. -/
def isStable (form : Form) (value : form.Value) (files : Files) : Bool :=
  match ((form.readText (form.toText value)).run files).value with
  | .ok again => form.toText again == form.toText value
  | .error _ => false

end Form

end KvTables
