import KvTables.Backend.Config
import KvTables.Reading.FromBuffer

/-! Documents that list backends under names, and references to backends. -/

set_option autoImplicit false

namespace KvTables.Backend

structure Named where
  id : String
  config : Config

namespace Named

def toJson (named : Named) : Json := .obj (("id", .str named.id) :: named.config.toFields)

variable {ν : Type} [Source ν]

def splitId : List (ν × ν) → Option String → Reading (Option String × List (Buffer × Buffer))
  | [], found => pure (found, [])
  | (key, value) :: rest, found => do
    let key ← Source.text "field identifier" key
    if key = "id" then
      if found.isSome then Reading.mismatch (.duplicateField "id")
      else splitId rest (some (← Source.text "a string" value))
    else
      let kept ← Source.buffer "any value" value
      let (found, others) ← splitId rest found
      return (found, (.text key, kept) :: others)

/-- The fields of the config stand beside the name. -/
def read (value : ν) : Reading Named :=
  Source.place value do
    let entries ← Source.entries "struct NamedBackendConfig" value
    let (found, fields) ← splitId entries.pairs none
    entries.past
    match found with
    | none => Reading.mismatch (.missingField "id")
    | some id => return ⟨id, ← Config.read (Buffer.mapping fields)⟩

end Named

inductive Reference where
  | named (name : String)
  | inline (config : Config)

namespace Reference

def toJson : Reference → Json
  | .named name => .str name
  | .inline config => config.toJson

/-- Why an inline config cannot be read is not reported. -/
def read {ν : Type} [Source ν] (value : ν) : Reading Reference := do
  match ← Source.buffer "any value" value with
  | .text name => pure (.named name)
  | kept =>
    -- Lines logged by a failed attempt stay.
    match ← Reading.attempt (Config.read kept) with
    | .ok config => pure (.inline config)
    | .error _ => Reading.mismatch (.noVariant "BackendRef")

end Reference

structure Document where
  backends : List Named

namespace Document

def toJson (document : Document) : Json :=
  .obj [("backends", .arr (document.backends.map Named.toJson))]

inductive Field where
  | backends
  deriving DecidableEq, Repr

def shape : Shape Field (fun _ => List Named) where
  title := "struct BackendsDocument"
  fields := [.backends]
  complete field := by cases field; decide
  name _ := "backends"
  aliases _ := []
  absent _ := some []

variable {ν : Type} [Source ν]

def readField (_ : Field) : ν → Reading (List Named) := Reading.list Named.read

def read (value : ν) : Reading Document := do
  let fields ← shape.read readField value
  return ⟨fields .backends⟩

end Document

end KvTables.Backend
