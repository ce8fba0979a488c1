import KvTables.Backend.Redis
import KvTables.Backend.RocksDb
import KvTables.Reading.FromBuffer

/-! Backend configs of any kind, told apart by a tag among their fields. -/

set_option autoImplicit false

namespace KvTables.Backend

structure Cuckoo where
  deriving DecidableEq, Repr

namespace Cuckoo

def toJson (_ : Cuckoo) : Json := .obj []

def shape : Shape Empty (fun _ => Unit) where
  title := "struct CuckooHashTableConfig"
  fields := []
  complete field := nomatch field
  name field := nomatch field
  aliases field := nomatch field
  absent field := nomatch field

def read {ν : Type} [Source ν] (value : ν) : Reading Cuckoo := do
  let _ ← shape.read (fun field => nomatch field) value
  return {}

end Cuckoo

inductive Config where
  | cuckoo (config : Cuckoo)
  | redis (config : Redis)
  | rocksDb (config : RocksDb)

namespace Config

def kind : Config → Kind
  | .cuckoo _ => .cuckoo
  | .redis _ => .redis
  | .rocksDb _ => .rocksDb

def typeName (config : Config) : String := config.kind.configName

def isVolatile (config : Config) : Bool := config.kind.isVolatile

def tag : String := "backend_type"

def toFields : Config → List (String × Json)
  | .cuckoo _ => [(tag, .str Kind.cuckoo.name)]
  | .redis config => (tag, .str Kind.redis.name) :: config.toFields
  | .rocksDb config => (tag, .str Kind.rocksDb.name) :: config.toFields

def toJson (config : Config) : Json := .obj config.toFields

def readAs (fields : Buffer) : Kind → Reading Config
  | .cuckoo => .cuckoo <$> Cuckoo.read fields
  | .redis => .redis <$> Redis.read fields
  | .rocksDb => .rocksDb <$> RocksDb.read fields

variable {ν : Type} [Source ν]

def readTag (value : ν) : Reading Kind :=
  Source.place value do
    Reading.pick (Kind.all.map fun kind => (kind.name, kind))
      (← Source.name "variant identifier" value)

/-- The tag and the other fields, which are kept until the tag is known. -/
def splitTag : List (ν × ν) → Option Kind → Reading (Option Kind × List (Buffer × Buffer))
  | [], found => pure (found, [])
  | (key, value) :: rest, found => do
    let key ← Source.buffer "a type tag `backend_type` or any other value" key
    if key matches .text "backend_type" then
      if found.isSome then Reading.mismatch (.duplicateField tag)
      else splitTag rest (some (← readTag value))
    else
      -- The tag may still come, so the other fields are kept unread.
      let kept ← Source.buffer "any value" value
      let (found, others) ← splitTag rest found
      return (found, (key, kept) :: others)

/-- The kind of a config and its fields; in a list the tag stands first. -/
def readParts : Parts ν → Reading (Kind × Buffer)
  | .items items =>
    match items.elements with
    | [] => do
      items.past
      Reading.mismatch (.missingField tag)
    | first :: rest => do
      let kind ← readTag first
      let fields ← Reading.each (Source.buffer "any value") rest
      items.past
      return (kind, .list fields)
  | .entries entries => do
    let (found, fields) ← splitTag entries.pairs none
    entries.past
    match found with
    | some kind => return (kind, .mapping fields)
    | none => Reading.mismatch (.missingField tag)

def read (value : ν) : Reading Config := do
  let (kind, fields) ← Source.place value do
    readParts (← Source.tagged "internally tagged enum BackendConfig" value)
  readAs fields kind

end Config

end KvTables.Backend
