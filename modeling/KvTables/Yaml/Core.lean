import KvTables.Reading.Source
import KvTables.Yaml.Token

/-! What scalars mean: the core rules of YAML 1.2.

A plain scalar is null, a boolean, an integer, a floating-point number or else a text. The tags of
the core types ask for one of them, and any other spelling is a text.
-/

set_option autoImplicit false

namespace KvTables.Yaml.Core

def isNull (text : String) : Bool := ["null", "Null", "NULL", "~"].contains text

def bool? (text : String) : Option Bool :=
  if ["true", "True", "TRUE"].contains text then some true
  else if ["false", "False", "FALSE"].contains text then some false
  else none

/-! ### Integers -/

def digitValue? (c : Char) : Option Nat :=
  if c.isDigit then some (c.toNat - '0'.toNat)
  else if 'a' ≤ c ∧ c ≤ 'z' then some (c.toNat - 'a'.toNat + 10)
  else if 'A' ≤ c ∧ c ≤ 'Z' then some (c.toNat - 'A'.toNat + 10)
  else none

/-- The number that digits of a base write; there has to be one. -/
def natural? (base : Nat) (digits : List Char) : Option Nat :=
  if digits.isEmpty then none
  else digits.foldlM (fun n c => do
    let d ← digitValue? c
    if d < base then return base * n + d else none) 0

/-- Several digits of which the first is zero; they are a text. -/
def isPadded (unsigned : List Char) : Bool :=
  1 < unsigned.length && unsigned.head? = some '0' && unsigned.all Char.isDigit

/-- A magnitude in decimal digits or, after its mark, in base 16, 8 or 2. -/
def magnitude? (unsigned : List Char) : Option Nat :=
  let marked := match unsigned with
    | '0' :: 'x' :: digits => natural? 16 digits
    | '0' :: 'o' :: digits => natural? 8 digits
    | '0' :: 'b' :: digits => natural? 2 digits
    | _ => none
  marked.or (if isPadded unsigned then none else natural? 10 unsigned)

def unsignedPart : List Char → Bool × List Char
  | '-' :: rest => (true, rest)
  | '+' :: rest => (false, rest)
  | text => (false, text)

def int? (text : List Char) : Option Int :=
  let (negative, unsigned) := unsignedPart text
  (magnitude? unsigned).map fun n => if negative then -n else n

/-! ### Floating-point numbers -/

def decimal? (unsigned : List Char) : Option (Nat × Int) := do
  let whole := unsigned.takeWhile Char.isDigit
  let rest := unsigned.dropWhile Char.isDigit
  let (fraction, rest) := match rest with
    | '.' :: more => (more.takeWhile Char.isDigit, more.dropWhile Char.isDigit)
    | more => ([], more)
  let significand ← natural? 10 (whole ++ fraction)
  let exponent ← match rest with
    | [] => some 0
    | c :: written =>
      if c = 'e' ∨ c = 'E' then
        let (negative, digits) := unsignedPart written
        (natural? 10 digits).map fun n => if negative then -(n : Int) else n
      else none
  return (significand, exponent - fraction.length)

inductive Real where
  | finite (value : Decimal.Double)
  | nonFinite (value : Decimal.NonFinite)

def real? (text : List Char) : Option Real :=
  let (negative, unsigned) := unsignedPart text
  let word := String.ofList unsigned
  if [".inf", ".Inf", ".INF"].contains word then some (.nonFinite (.infinite negative))
  else if [".nan", ".NaN", ".NAN"].contains (String.ofList text) then some (.nonFinite .notANumber)
  else do
    let (significand, exponent) ← decimal? unsigned
    return .finite (← Decimal.Double.ofDecimal? negative significand exponent)

def Real.found : Real → Found
  | .finite value => .float value
  | .nonFinite value => .nonFinite value

/-! ### Scalars -/

def fitsTwoWords (value : Int) : Bool :=
  -170141183460469231731687303715884105728 ≤ value &&
    value < 340282366920938463463374607431768211456

/-- Integers beyond 64 bits are told apart up to 128 bits; larger ones are floating-point numbers. -/
def integer? (text : List Char) : Option Found := do
  let value ← int? text
  if value = 0 ∧ (unsignedPart text).1 then return .minusZero
  else if Json.FitsWord value then return .int value
  else if fitsTwoWords value then return .wideInt value
  else none

def plain (text : String) : Found :=
  if text = "" ∨ isNull text then .null
  else
    match bool? text with
    | some value => .bool value
    | none =>
      match integer? text.toList with
      | some found => found
      | none =>
        -- Padded digits would do for a floating-point number, but stay a text.
        if isPadded (unsignedPart text.toList).2 then .text text
        else
          match real? text.toList with
          | some value => value.found
          | none => .text text

def found (style : Style) (tag : Option Tag) (text : String) : Except Mismatch Found :=
  let expect (found : Option Found) (expected : String) : Except Mismatch Found :=
    match found with
    | some found => .ok found
    | none => .error (.wrongValue (.text text) expected)
  let untagged := if style = .plain then plain text else .text text
  match tag with
  | none => .ok untagged
  | some tag =>
    if tag = .bool then expect ((bool? text).map .bool) "a boolean"
    else if tag = .int then expect (integer? text.toList) "an integer"
    else if tag = .float then expect ((real? text.toList).map Real.found) "a float"
    else if tag = .null then expect (if isNull text then some .null else none) "null"
    else if tag.isLocal then .ok untagged
    else .ok (.text text)

/-- Whether a scalar may be read as a core type whatever its tag, or because of it. -/
def readsAs (expected : Tag) (style : Style) (tag : Option Tag) : Bool :=
  style = .plain || (style = .literal && tag = some expected)

def isAbsent (style : Style) (tag : Option Tag) (text : String) : Except Mismatch Bool :=
  if style ≠ .plain then .ok false
  else
    match tag with
    | none => .ok (text = "" || isNull text)
    | some tag =>
      if tag ≠ .null then .ok false
      else if isNull text then .ok true
      else .error (.wrongValue (.text text) "null")

end KvTables.Yaml.Core
