import KvTables.Decimal.Double
import KvTables.Sorted

/-! JSON values as trees, and their canonical form.

A tree keeps the fields of an object as they were written. In canonical form the keys of every
object increase strictly; of several equal keys the last one decides.
-/

set_option autoImplicit false

namespace KvTables

open Decimal (Double)

namespace Json

/-- Whether 64 bits hold an integer, either with a sign or without. -/
def FitsWord (value : Int) : Prop := -9223372036854775808 ≤ value ∧ value < 18446744073709551616

instance (value : Int) : Decidable (FitsWord value) := instDecidableAnd

/-- Integers that fit into 64 bits stay exact; other numbers are doubles. -/
inductive Number where
  | int (value : Int) (fits : FitsWord value)
  | float (value : Double)
  deriving DecidableEq, Repr

def Number.ofInt? (value : Int) : Option Number :=
  if fits : FitsWord value then some (.int value fits) else none

def Number.ofCount (count : UInt64) : Number :=
  .int count.toNat ⟨by omega, by have := count.toNat_lt; omega⟩

end Json

inductive Json where
  | null
  | bool (value : Bool)
  | num (value : Json.Number)
  | str (text : String)
  | arr (items : List Json)
  | obj (fields : List (String × Json))
  deriving Repr

namespace Json

instance : Inhabited Json := ⟨null⟩

def field (name : String) : Option Json → List (String × Json)
  | none => []
  | some value => [(name, value)]

mutual

def canonical : Json → Json
  | .null => .null
  | .bool value => .bool value
  | .num value => .num value
  | .str text => .str text
  | .arr items => .arr (canonicalItems items)
  | .obj fields => .obj (Sorted.ofList (canonicalFields fields))

def canonicalItems : List Json → List Json
  | [] => []
  | item :: rest => item.canonical :: canonicalItems rest

def canonicalFields : List (String × Json) → List (String × Json)
  | [] => []
  | (key, value) :: rest => (key, value.canonical) :: canonicalFields rest

end

mutual

def Canonical : Json → Prop
  | .null => True
  | .bool _ => True
  | .num _ => True
  | .str _ => True
  | .arr items => CanonicalItems items
  | .obj fields => Sorted.Increasing fields ∧ CanonicalFields fields

def CanonicalItems : List Json → Prop
  | [] => True
  | item :: rest => item.Canonical ∧ CanonicalItems rest

def CanonicalFields : List (String × Json) → Prop
  | [] => True
  | (_, value) :: rest => value.Canonical ∧ CanonicalFields rest

end

theorem canonicalFields_iff {fields : List (String × Json)} :
    CanonicalFields fields ↔ ∀ field ∈ fields, field.2.Canonical := by
  induction fields with
  | nil => simp [CanonicalFields]
  | cons field rest ih => obtain ⟨key, value⟩ := field; simp [CanonicalFields, ih]

mutual

theorem canonical_canonical : (json : Json) → json.canonical.Canonical
  | .null => trivial
  | .bool _ => trivial
  | .num _ => trivial
  | .str _ => trivial
  | .arr items => canonicalItems_canonical items
  | .obj fields =>
    ⟨Sorted.increasing_ofList _, canonicalFields_iff.2 fun _ member =>
      canonicalFields_iff.1 (canonicalFields_canonical fields) _ (Sorted.mem_of_mem_ofList member)⟩

theorem canonicalItems_canonical : (items : List Json) → CanonicalItems (canonicalItems items)
  | [] => trivial
  | item :: rest => ⟨canonical_canonical item, canonicalItems_canonical rest⟩

theorem canonicalFields_canonical :
    (fields : List (String × Json)) → CanonicalFields (canonicalFields fields)
  | [] => trivial
  | (_, value) :: rest => ⟨canonical_canonical value, canonicalFields_canonical rest⟩

end

structure Value where
  json : Json
  canonical : json.Canonical

def Value.ofJson (json : Json) : Value := ⟨json.canonical, json.canonical_canonical⟩

def Value.null : Value := ⟨.null, trivial⟩

structure Object where
  fields : List (String × Json)
  canonical : Canonical (.obj fields)

namespace Object

def ofFields (fields : List (String × Json)) : Object :=
  ⟨Sorted.ofList (canonicalFields fields), canonical_canonical (.obj fields)⟩

def empty : Object := ⟨[], List.Pairwise.nil, trivial⟩

def toJson (object : Object) : Json := .obj object.fields

def get? (object : Object) (key : String) : Option Json := object.fields.lookup key

end Object

end Json

end KvTables
