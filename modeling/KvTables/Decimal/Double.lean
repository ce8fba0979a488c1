/-! Finite binary64 numbers as exact values, and the double nearest to a ratio.

A magnitude is kept as its place among all finite magnitudes, counted from zero. Arithmetic is on
natural numbers throughout; a rounded result is the nearest double, ties going to the even place.
-/

set_option autoImplicit false

namespace KvTables.Decimal

def twoTo (exponent : Nat) : Nat := Nat.pow 2 exponent

def tenTo (exponent : Nat) : Nat := Nat.pow 10 exponent

/-- Significands of doubles other than the smallest ones lie between this and its double. -/
def hiddenBit : Nat := twoTo 52

def magnitudes : Nat := 2047 * hiddenBit

/-- A finite binary64 number; zero has a sign too. -/
structure Double where
  negative : Bool
  place : Fin magnitudes
  deriving DecidableEq, Repr

namespace Double

/-- The integer `m` of a magnitude `m * 2 ^ shift / 2 ^ 1074`. -/
def mantissaAt (place : Nat) : Nat :=
  if place < hiddenBit then place else place % hiddenBit + hiddenBit

def shiftAt (place : Nat) : Nat := place / hiddenBit - 1

/-- The magnitude at a place, in units of `2 ^ (-1074)`. -/
def unitsAt (place : Nat) : Nat := mantissaAt place * twoTo (shiftAt place)

def units (x : Double) : Nat := unitsAt x.place

def zero (negative : Bool) : Double := ⟨negative, ⟨0, by decide⟩⟩

def isZero (x : Double) : Bool := x.place.val == 0

def neg (x : Double) : Double := { x with negative := !x.negative }

/-- Quotient rounded to the nearest natural number, a tie to the even one. -/
def roundedQuotient (num den : Nat) : Nat :=
  let quotient := num / den
  let twice := 2 * (num % den)
  if twice < den then quotient
  else if den < twice then quotient + 1
  else quotient + quotient % 2

/-- Place of the double nearest to `num / den`; may lie past the last finite one. -/
def nearestPlace (num den : Nat) : Nat :=
  let scaled := num * twoTo 1074
  -- The quotient keeps 53 binary digits; the places of each power of two follow the last.
  let shift := (scaled / den).log2 + 1 - 53
  shift * hiddenBit + roundedQuotient scaled (den * twoTo shift)

def nearest? (negative : Bool) (num den : Nat) : Option Double :=
  let place := nearestPlace num den
  if bounded : place < magnitudes then some ⟨negative, ⟨place, bounded⟩⟩ else none

/-- The double nearest to `significand * 10 ^ exponent`. Exponents far outside the range of doubles
are settled by the number of digits alone. -/
def ofDecimal? (negative : Bool) (significand : Nat) (exponent : Int) : Option Double :=
  if significand = 0 then some (zero negative)
  else
    let digits : Int := (Nat.toDigits 10 significand).length
    if digits + exponent > 310 then none
    else if digits + exponent < -330 then some (zero negative)
    else if 0 ≤ exponent then nearest? negative (significand * tenTo exponent.toNat) 1
    else nearest? negative significand (tenTo (-exponent).toNat)

def mul? (x y : Double) : Option Double :=
  nearest? (x.negative != y.negative) (x.units * y.units) (twoTo 2148)

def div? (x y : Double) : Option Double :=
  nearest? (x.negative != y.negative) x.units y.units

end Double

inductive NonFinite where
  | infinite (negative : Bool)
  | notANumber
  deriving DecidableEq, Repr

def NonFinite.text : NonFinite → String
  | .infinite false => "inf"
  | .infinite true => "-inf"
  | .notANumber => "NaN"

end KvTables.Decimal
