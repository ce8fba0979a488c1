import KvTables.Backend.Config
import KvTables.Table.Args

/-! Descriptions of tables: which backend, with which arguments and config. -/

set_option autoImplicit false

namespace KvTables

structure TableSpec where
  backend : Backend.Kind
  args : TableArgs
  config : Option Backend.Config

namespace TableSpec

def isVolatile (spec : TableSpec) : Bool := spec.backend.isVolatile

def toJson (spec : TableSpec) : Json :=
  .obj ([("backend", spec.backend.toJson), ("args", spec.args.toJson)] ++
    Json.field "config" (spec.config.map Backend.Config.toJson))

inductive Field where
  | backend | args | config
  deriving DecidableEq, Repr

def Field.Value : Field → Type
  | .backend => Backend.Kind
  | .args => TableArgs
  | .config => Option Backend.Config

def shape : Shape Field Field.Value where
  title := "struct TableSpec"
  fields := [.backend, .args, .config]
  complete field := by cases field <;> decide
  name
    | .backend => "backend"
    | .args => "args"
    | .config => "config"
  aliases _ := []
  absent
    | .backend => none
    | .args => none
    | .config => some none

variable {ν : Type} [Source ν]

def readField : (field : Field) → ν → Reading field.Value
  | .backend => Backend.Kind.read
  | .args => TableArgs.read
  | .config => Reading.optional Backend.Config.read

def read (value : ν) : Reading TableSpec := do
  let fields ← shape.read readField value
  return ⟨fields .backend, fields .args, fields .config⟩

end TableSpec

end KvTables
