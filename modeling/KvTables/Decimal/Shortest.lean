import KvTables.Decimal.Double

/-! The fewest decimal digits that read back as a given double.

For one digit, two digits and so on, the two neighbours of the exact value on that decimal grid are
compared with the interval of reals that round to the double. The first grid with a hit wins, and on
it the nearer neighbour.
-/

set_option autoImplicit false

namespace KvTables.Decimal

/-- Digits without leading or trailing zeros, read as `0.d₁d₂… * 10 ^ point`. -/
structure Digits where
  digits : List Char
  point : Int
  deriving DecidableEq, Repr

namespace Double

/-- The reals that round to a magnitude, in half units; both ends belong to it iff its place is
even. -/
structure Interval where
  low : Nat
  value : Nat
  high : Nat
  closed : Bool

def interval (place : Nat) : Interval where
  low := unitsAt (place - 1) + unitsAt place
  value := 2 * unitsAt place
  high := unitsAt place + unitsAt (place + 1)
  closed := place % 2 == 0

def Interval.holds (i : Interval) (num den : Nat) : Bool :=
  if i.closed then i.low * den ≤ num && num ≤ i.high * den
  else i.low * den < num && num < i.high * den

def leadingExponent (place : Nat) : Int :=
  ((Nat.toDigits 10 (unitsAt place * tenTo 342 / twoTo 1074)).length : Int) - 343

/-- The neighbour to write on the grid of multiples of `num / den` half units, if one reads back. -/
def Interval.onGrid? (i : Interval) (num den : Nat) : Option Nat :=
  let below := i.value * den / num
  let twice := 2 * (i.value * den % num)
  let holds := fun n => i.holds (n * num) den
  match holds below, holds (below + 1) with
  | true, true =>
    -- Of two hits the nearer one, and in a tie the even one.
    if twice < num || (twice == num && below % 2 == 0) then some below else some (below + 1)
  | true, false => some below
  | false, true => some (below + 1)
  | false, false => none

def firstHit (i : Interval) (leading : Int) : (count fuel : Nat) → Nat × Int
  | _, 0 => (0, 0)
  | count, fuel + 1 =>
    let exponent := leading + 1 - count
    let num := twoTo 1075 * tenTo exponent.toNat
    let den := tenTo (-exponent).toNat
    match i.onGrid? num den with
    | some n => (n, exponent)
    | none => firstHit i leading (count + 1) fuel

/-- Shortest digits of a magnitude other than zero; seventeen always suffice. -/
def shortest (x : Double) : Digits :=
  let (n, exponent) := firstHit (interval x.place) (leadingExponent x.place) 1 17
  let written := Nat.toDigits 10 n
  { digits := (written.reverse.dropWhile (· == '0')).reverse
    point := written.length + exponent }

end Double

end KvTables.Decimal
