import KvTables.Environment
import KvTables.Log
import KvTables.Reading.Record
import KvTables.Reading.Variants

/-! Configs of Redis tables: where the table finds its parameter file.

Nothing is opened here; the table reads the file when it connects.
-/

set_option autoImplicit false

namespace KvTables.Backend

structure Redis where
  path : Option String
  /-- The environment variable that holds the path. -/
  envName : Option String
  deriving DecidableEq, Repr

namespace Redis

def standardVariable : String := "TFRA_REDIS_CONFIG_PATH"

def standard : Redis := ⟨none, none⟩

def fromStandardVariable : Redis := ⟨none, some standardVariable⟩

def withPath (config : Redis) (path : String) : Redis := { config with path := some path }

def withVariable (config : Redis) (name : String) : Redis := { config with envName := some name }

/-- The path of the parameter file. A variable that is set to a text other than the empty one wins
over the explicit path. -/
def resolvePath (config : Redis) (environment : Environment) : Logged (Option String) :=
  match config.envName with
  | none => pure config.path
  | some name =>
    match environment.text? name with
    | none => do
      Logged.line .debug s!"Redis config env var '{name}' is not set"
      pure config.path
    | some value =>
      if value = "" then do
        Logged.line .debug s!"Redis config env var '{name}' is not set"
        pure config.path
      else pure (some value)

def toFields (config : Redis) : List (String × Json) :=
  Json.field "config_path" (config.path.map .str) ++
    Json.field "config_path_env" (config.envName.map .str)

def toJson (config : Redis) : Json := .obj config.toFields

inductive Field where
  | path | envName
  deriving DecidableEq, Repr

def shape : Shape Field (fun _ => Option String) where
  title := "struct RedisTableConfig"
  fields := [.path, .envName]
  complete field := by cases field <;> decide
  name
    | .path => "config_path"
    | .envName => "config_path_env"
  aliases
    | .path => ["redis_config_abs_dir"]
    | .envName => ["redis_config_abs_dir_env"]
  absent _ := some none

variable {ν : Type} [Source ν]

def readField : Field → ν → Reading (Option String)
  | .path => Reading.optional (Source.text "path string")
  | .envName => Reading.optional (Source.text "a string")

def read (value : ν) : Reading Redis := do
  let fields ← shape.read readField value
  return ⟨fields .path, fields .envName⟩

end Redis

end KvTables.Backend
