import KvTables.Reading.Basic
import KvTables.Reading.Buffer

/-! What can be read from, whatever its notation.

A source answers the questions that a type puts to it: is this a text, which fields does it have,
which variant does it name. Types state their form once, in these questions, and can then be read
from JSON text, from JSON values, from YAML documents and from values kept aside.
-/

set_option autoImplicit false

namespace KvTables

/-- What names a field or a variant: its text, or its position among all of them. -/
inductive Name where
  | text (text : String)
  | index (index : Nat)
  deriving DecidableEq, Repr

/-- The elements of a list. `past` is what asking for one more leads to, and `surplus n` what
stopping after `n` elements leads to. -/
structure Items (ν : Type) where
  elements : List ν
  past : Reading Unit
  surplus : Nat → Reading Unit

/-- The keys and values of a mapping, and what asking for one more key leads to. -/
structure Entries (ν : Type) where
  pairs : List (ν × ν)
  past : Reading Unit

inductive Parts (ν : Type) where
  | items (items : Items ν)
  | entries (entries : Entries ν)

/-- A variant by name, then read either without or with a payload, then closed. -/
structure Choice (ν : Type) where
  name : Reading Name
  bare : Reading Unit
  payload : Reading ν
  close : Reading Unit

class Source (ν : Type) where
  /-- Give a mismatch that arises in a reading the place of a value. -/
  place {α : Type} : ν → Reading α → Reading α
  text (expected : String) : ν → Reading String
  /-- The name of a field or a variant. -/
  name (expected : String) : ν → Reading Name
  flag : ν → Reading Bool
  count : ν → Reading UInt64
  /-- Nothing if the value is null. -/
  optional : ν → Reading (Option ν)
  items (expected : String) : ν → Reading (Items ν)
  entries (expected : String) : ν → Reading (Entries ν)
  /-- The parts of a record, which some notations can write as a list. -/
  record (expected : String) : ν → Reading (Parts ν)
  /-- The parts of a record whose form depends on a tag among them. -/
  tagged (expected : String) : ν → Reading (Parts ν)
  choice {α : Type} : ν → (Choice ν → Reading α) → Reading α
  /-- Pass over a value without reading it. -/
  skip : ν → Reading Unit
  /-- A value without a known form, as a JSON tree. -/
  json : ν → Reading Json
  /-- A value kept aside until its form is known. -/
  buffer (expected : String) : ν → Reading Buffer

def Json.Number.found : Json.Number → Found
  | .int value _ => .int value
  | .float value => .float value

def Json.Number.count : Json.Number → Reading UInt64
  | .int value _ =>
    if value < 0 then Reading.mismatch (.wrongValue (.int value) "u64")
    else pure (UInt64.ofNat value.toNat)
  | .float value => Reading.mismatch (.wrongType (.float value) "u64")

namespace Choice

variable {ν : Type}

def ofText (name : Reading Name) : Choice ν where
  name := name
  bare := pure ()
  payload := Reading.mismatch (.wrongType .bareVariant "newtype variant")
  close := pure ()

end Choice

end KvTables
