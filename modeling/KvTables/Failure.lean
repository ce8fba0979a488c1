import KvTables.Backend.Kind
import KvTables.Files

/-! Why a config cannot be built or a table cannot be created. -/

set_option autoImplicit false

namespace KvTables

inductive ArgumentFault where
  | unknownDType (name : String)
  | bothSources
  | noSource
  /-- A source that is neither a path nor a mapping. -/
  | sourceType (name : String)
  deriving DecidableEq, Repr

namespace ArgumentFault

def message : ArgumentFault → String
  | .unknownDType name => s!"unknown dtype '{name}'"
  | .bothSources => "RocksDB config takes either 'src' or 'params', not both"
  | .noSource => "RocksDB config needs a 'src' path or inline 'params'"
  | .sourceType name => s!"RocksDB config source must be a path or a mapping, got {name}"

end ArgumentFault

inductive Operation where
  /-- Building a table of a kind. -/
  | construct (kind : Backend.Kind)
  /-- Exporting the last construction parameters. -/
  | exportConfig (kind : Backend.Kind)
  deriving DecidableEq, Repr

namespace Operation

def constructorName : Backend.Kind → String
  | .cuckoo => "cuckoo_hash_table"
  | .redis => "redis_table"
  | .rocksDb => "rocksdb_table"

def describe : Operation → String
  | .construct kind => constructorName kind
  | .exportConfig kind => s!"get_config for the {kind.name} creator"

end Operation

inductive Deferred where
  | value (name : String)
  | creatorConfig
  deriving DecidableEq, Repr

def Deferred.message : Deferred → String
  | .value name => s!"default value '{name}' has no concrete value yet"
  | .creatorConfig => "CuckooHashTableCreator config can only be serialized in eager mode"

inductive Failure where
  /-- A config file cannot be read. -/
  | configRead (path : String) (cause : ReadError)
  /-- A config file is no JSON object. -/
  | configParse (path : String) (cause : Fault)
  /-- A text is no document of backends. -/
  | configDocument (cause : Fault)
  /-- RocksDB parameters that cannot be used. -/
  | invalidParams (cause : Fault)
  | invalidArgument (cause : ArgumentFault)
  /-- The config in effect is of another kind, or there is none. -/
  | wrongConfig (expected : Backend.Kind) (actual : Option Backend.Kind)
  | unknownBackend (name : String)
  | notImplemented (operation : Operation)
  | notEager (cause : Deferred)
  /-- Nothing has been created yet. -/
  | noTableYet
  /-- A failure of the engine behind a table, perhaps with what it was doing. -/
  | engine (message : String) (context : Option String)
  deriving DecidableEq, Repr

namespace Failure

def actualName (actual : Option Backend.Kind) : String :=
  (actual.map Backend.Kind.configName).getD "None"

def message : Failure → String
  | .configRead path cause => s!"Failed to read config file '{path}': " ++ cause.message
  | .configParse path cause => s!"Failed to parse config file '{path}': " ++ cause.message .json
  | .configDocument cause => "Failed to load backends document: " ++ cause.message .yaml
  | .invalidParams cause => "Invalid configuration: RocksDB parameters: " ++ cause.message .json
  | .invalidArgument cause => "Invalid argument: " ++ cause.message
  | .wrongConfig expected actual =>
    s!"config should be instance of '{expected.configName}', but got '{actualName actual}'"
  | .unknownBackend name =>
    s!"Unknown storage backend: '{name}'. " ++
      "Check that the backend is defined in the backends configuration."
  | .notImplemented operation => operation.describe ++ " is not implemented"
  | .notEager cause => "Unsupported outside eager execution: " ++ cause.message
  | .noTableYet => "Invalid state: CuckooHashTableCreator has not created a table yet"
  | .engine message context => context.getD message

/-- The message of the cause behind a failure, if it has one of its own. -/
def cause? : Failure → Option String
  | .configRead _ cause => some cause.message
  | .configParse _ cause => some (cause.message .json)
  | .engine message (some _) => some message
  | _ => none

/-- Failures that arise while a config is built, from its files, its text or its form. -/
def isConfigLoad : Failure → Bool
  | .configRead _ _ | .configParse _ _ | .configDocument _ | .invalidArgument _ => true
  | _ => false

end Failure

end KvTables
