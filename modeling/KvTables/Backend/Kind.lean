import KvTables.Reading.Variants

/-! The families of storage backends. -/

set_option autoImplicit false

namespace KvTables.Backend

inductive Kind where
  /-- An in-memory hash table. -/
  | cuckoo
  /-- A Redis service. -/
  | redis
  /-- A local RocksDB database. -/
  | rocksDb
  deriving DecidableEq, Repr

namespace Kind

/-- The name shown in messages; it also tags a backend config. -/
def name : Kind → String
  | .cuckoo => "cuckoo_hash_table"
  | .redis => "redis"
  | .rocksDb => "rocksdb"

/-- The name a kind is written under on its own. -/
def variantName : Kind → String
  | .cuckoo => "cuckoo_hash_table"
  | .redis => "redis"
  | .rocksDb => "rocks_db"

def configName : Kind → String
  | .cuckoo => "CuckooHashTableConfig"
  | .redis => "RedisTableConfig"
  | .rocksDb => "RocksDbTableConfig"

/-- Volatile tables lose their contents when the process ends. -/
def isVolatile (kind : Kind) : Bool := kind == .cuckoo

def all : List Kind := [.cuckoo, .redis, .rocksDb]

def toJson (kind : Kind) : Json := .str kind.variantName

def read {ν : Type} [Source ν] : ν → Reading Kind :=
  Reading.bare (all.map fun kind => (kind.variantName, kind))

end Kind

end KvTables.Backend
