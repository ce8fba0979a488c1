import KvTables.Form
import KvTables.Proofs.Creators.Uses
import KvTables.Table.Factory

/-! Tasks: what configs are built from, and what is done with them.

Building looks at files. What uses a config that exists is given none.
-/

set_option autoImplicit false

namespace KvTables

open Backend

inductive Building where
  | file (path : String)
  | standardFile
  | value (source : Json.Value)
  | written (form : RocksDb.Written)
  | backends (text : String)
  | backendsFile (path : String)

namespace Building

def Value : Building → Type
  | .file _ | .standardFile | .value _ | .written _ => RocksDb
  | .backends _ | .backendsFile _ => Factory

def run (files : Files) : (building : Building) → Logged (Except Failure building.Value)
  | .file path => RocksDb.fromPath path files
  | .standardFile => RocksDb.loadStandard files
  | .value source => RocksDb.fromValue source files
  | .written form => form.load files
  | .backends text => Factory.ofText text files
  | .backendsFile path => Factory.ofFile path files

end Building

variable {σ Table : Type}

inductive Using (σ Table : Type) where
  | resolve (factory : Factory) (reference : Reference)
  | creatorFor (factory : Factory) (reference : Reference)
  | isVolatile (factory : Factory) (reference : Reference)
  | resolvePath (config : Redis)
  | options (config : RocksDb)
  | toValue (value : DefaultValue)
  | create (direct : Bool) (creator : Creator) (provider : Provider σ Table) (call : Call) (memory : σ)
  | exportConfig (creator : Creator)

namespace Using

def Value : Using σ Table → Type
  | .resolve _ _ => Config
  | .creatorFor _ _ => Creator
  | .isVolatile _ _ => Bool
  | .resolvePath _ => Option String
  | .options _ => RocksDb.Options
  | .toValue _ => Json.Value
  | .create _ _ _ _ _ => Table
  | .exportConfig _ => Json.Object

def run (environment : Environment) :
    (use : Using σ Table) → Logged (Except Failure use.Value)
  | .resolve factory reference => pure (factory.resolve reference)
  | .creatorFor factory reference => factory.creator reference
  | .isVolatile factory reference => (factory.isVolatile reference).map .ok
  | .resolvePath config => (config.resolvePath environment).map .ok
  | .options config => config.options
  | .toValue value => pure value.toValue
  | .create direct creator provider call memory =>
    (creator.createVia direct provider call memory).map Created.result
  | .exportConfig creator => creator.exportConfig

end Using

end KvTables
