import KvTables.Table.Spec

/-! What is asked of table engines, and providers that answer. -/

set_option autoImplicit false

namespace KvTables

open Backend

inductive Construction where
  | cuckoo (args : TableArgs) (override : Option Config)
  | redis (args : TableArgs) (config : Redis)
  | rocksDb (args : TableArgs) (config : RocksDb)

namespace Construction

def kind : Construction → Kind
  | .cuckoo _ _ => .cuckoo
  | .redis _ _ => .redis
  | .rocksDb _ _ => .rocksDb

def args : Construction → TableArgs
  | .cuckoo args _ | .redis args _ | .rocksDb args _ => args

def config : Construction → Option Config
  | .cuckoo _ override => override
  | .redis _ config => some (.redis config)
  | .rocksDb _ config => some (.rocksDb config)

def spec (construction : Construction) : TableSpec :=
  ⟨construction.kind, construction.args, construction.config⟩

end Construction

structure Provider (σ Table : Type) where
  construct : Construction → σ → Except Failure Table × σ

namespace Provider

variable {σ Table : Type}

def ofFunction (answer : Construction → Except Failure Table) : Provider σ Table :=
  ⟨fun construction state => (answer construction, state)⟩

def bare : Provider σ Table :=
  ofFunction fun construction => .error (.notImplemented (.construct construction.kind))

/-- Describes tables instead of building them. -/
def spec : Provider σ TableSpec := ofFunction fun construction => .ok construction.spec

/-- Supports RocksDB alone, and hands back what it was asked for. -/
def rocksDbOnly : Provider σ (TableArgs × RocksDb) :=
  ofFunction fun
    | .rocksDb args config => .ok (args, config)
    | construction => .error (.notImplemented (.construct construction.kind))

def failing (message : String) (context : Option String) : Provider σ Table :=
  ofFunction fun _ => .error (.engine message context)

/-- Notes every construction; its tables are numbered from one. -/
def recording : Provider (List Construction) Nat :=
  ⟨fun construction calls => (.ok (calls.length + 1), calls ++ [construction])⟩

end Provider

end KvTables
