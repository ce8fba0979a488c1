import KvTables.Table.Provider

/-! Creators: a backend config together with how tables of that backend are built.

A creator of hash tables remembers its last call, whatever came of it, so that the parameters can be
exported. The stored config is checked when a table is created and not before.
-/

set_option autoImplicit false

namespace KvTables

open Backend

structure Call where
  args : TableArgs
  override : Option Config

inductive Creator where
  | cuckoo (config : Option Config) (last : Option Call)
  | redis (config : Option Config)
  | rocksDb (config : Option Config)

structure Created (σ Table : Type) where
  result : Except Failure Table
  creator : Creator
  state : σ

namespace Creator

/-- A creator of a kind around a config of any kind, or around none. -/
def ofKind (kind : Kind) (config : Option Config) : Creator :=
  match kind with
  | .cuckoo => .cuckoo config none
  | .redis => .redis config
  | .rocksDb => .rocksDb config

def ofConfig (config : Config) : Creator := ofKind config.kind (some config)

def ofCuckoo (config : Cuckoo) : Creator := ofConfig (.cuckoo config)

def ofRedis (config : Redis) : Creator := ofConfig (.redis config)

def ofRocksDb (config : RocksDb) : Creator := ofConfig (.rocksDb config)

def newCuckoo : Creator := ofConfig (.cuckoo {})

def kind : Creator → Kind
  | .cuckoo _ _ => .cuckoo
  | .redis _ => .redis
  | .rocksDb _ => .rocksDb

def config : Creator → Option Config
  | .cuckoo config _ | .redis config | .rocksDb config => config

def isVolatile (creator : Creator) : Bool := creator.kind.isVolatile

def record (creator : Creator) (call : Call) : Creator :=
  match creator with
  | .cuckoo config _ => .cuckoo config (some call)
  | creator => creator

/-- What a creator asks of its provider. Hash tables get the override as it is; the other backends
get the config in effect, which has to be of their kind, and size themselves. -/
def construction (creator : Creator) (call : Call) : Except Failure Construction :=
  let effective := call.override.or creator.config
  match creator, effective with
  | .cuckoo _ _, _ => .ok (.cuckoo call.args call.override)
  | .redis _, some (.redis config) => .ok (.redis call.args.withoutInitSize config)
  | .rocksDb _, some (.rocksDb config) => .ok (.rocksDb call.args.withoutInitSize config)
  | .redis _, other => .error (.wrongConfig .redis (other.map Config.kind))
  | .rocksDb _, other => .error (.wrongConfig .rocksDb (other.map Config.kind))

def tableNoun : Kind → String
  | .cuckoo => "cuckoo hash table"
  | .redis => "Redis table"
  | .rocksDb => "RocksDB table"

def announcement (kind : Kind) (args : TableArgs) : String :=
  s!"Creating {tableNoun kind} '{args.displayName}' " ++
    s!"({args.keyDType.name} -> {args.valueDType.name})"

def mismatchText (expected : Kind) (actual : Option Config) : String :=
  s!"config should be instance of '{expected.configName}', but got '" ++
    (actual.map Config.typeName).getD "None" ++ "'"

variable {σ Table : Type}

def createDirectly (creator : Creator) (provider : Provider σ Table) (call : Call) (state : σ) :
    Logged (Created σ Table) :=
  -- The call is on record even if the construction fails.
  let recorded := creator.record call
  match creator.construction call with
  | .error failure => do
    Logged.line .error (mismatchText creator.kind (call.override.or creator.config))
    pure ⟨.error failure, recorded, state⟩
  | .ok construction => do
    Logged.line .debug (announcement creator.kind call.args)
    let (result, state) := provider.construct construction state
    pure ⟨result, recorded, state⟩

/-- Create a table, with a warning about key types that engines need not support. -/
def create (creator : Creator) (provider : Provider σ Table) (call : Call) (state : σ) :
    Logged (Created σ Table) := do
  if call.args.keyDType.isKeyType then pure ()
  else
    Logged.line .warn
      s!"Key dtype {call.args.keyDType.name} has no registered {creator.kind.name} kernels"
  creator.createDirectly provider call state

/-- The parameters of a call as a mapping, null for each that was not given. -/
def exported (call : Call) (defaultValue : Json) : Json.Object :=
  .ofFields [
    ("key_dtype", .str call.args.keyDType.name),
    ("value_dtype", .str call.args.valueDType.name),
    ("default_value", defaultValue),
    ("name", (call.args.name.map Json.str).getD .null),
    ("checkpoint", (call.args.checkpoint.map Json.bool).getD .null),
    ("init_size", (call.args.initSize.map fun size => Json.num (.ofCount size)).getD .null),
    ("config", (call.override.map Config.toJson).getD .null)]

/-- The construction parameters of the last call; only creators of hash tables keep them. -/
def exportConfig : Creator → Logged (Except Failure Json.Object)
  | .cuckoo _ none => pure (.error .noTableYet)
  | .cuckoo _ (some call) =>
    match call.args.defaultValue with
    | none => pure (.ok (exported call .null))
    | some value =>
      match value.toValue with
      | .ok value => pure (.ok (exported call value.json))
      | .error failure => do
        Logged.line .error ("Cannot export CuckooHashTableCreator config: " ++ failure.message)
        pure (.error (.notEager .creatorConfig))
  | creator => pure (.error (.notImplemented (.exportConfig creator.kind)))

end Creator

end KvTables
