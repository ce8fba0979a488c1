import KvTables.Json.Basic
import KvTables.Reading.Fault

/-! Numbers as JSON text writes them.

Integers that fit into 64 bits are exact. Any other number becomes a double in two roundings: of its
leading digits, as many as fit into 64 bits, and of their product with a power of ten.
-/

set_option autoImplicit false

namespace KvTables.Json

open Decimal (Double)

/-- The parts of a number; the digits of a part that is absent are `none`. -/
structure Numeral where
  negative : Bool
  whole : List Nat
  fraction : Option (List Nat)
  /-- Sign and digits of the power of ten. -/
  exponent : Option (Bool × List Nat)
  deriving DecidableEq, Repr

def digit? (c : Char) : Option Nat :=
  if c.isDigit then some (c.toNat - '0'.toNat) else none

def digits : List Char → List Nat × List Char
  | [] => ([], [])
  | c :: rest =>
    match digit? c with
    | some d => let (more, after) := digits rest; (d :: more, after)
    | none => ([], c :: rest)

def missingDigit : List Char → SyntaxError
  | [] => .endInValue
  | _ => .badNumber

namespace Numeral

def wholePart : List Char → Except SyntaxError (List Nat × List Char)
  | '0' :: rest =>
    match digits rest with
    | ([], _) => .ok ([0], rest)
    | _ => .error .badNumber
  | text =>
    match digits text with
    | ([], rest) => .error (missingDigit rest)
    | found => .ok found

def fractionPart : List Char → Except SyntaxError (Option (List Nat) × List Char)
  | '.' :: rest =>
    match digits rest with
    | ([], after) => .error (missingDigit after)
    | (found, after) => .ok (some found, after)
  | text => .ok (none, text)

def exponentPart : List Char → Except SyntaxError (Option (Bool × List Nat) × List Char)
  | [] => .ok (none, [])
  | c :: rest =>
    if c = 'e' ∨ c = 'E' then
      let (negative, unsigned) := match rest with
        | '+' :: more => (false, more)
        | '-' :: more => (true, more)
        | more => (false, more)
      match digits unsigned with
      | ([], after) => .error (missingDigit after)
      | (found, after) => .ok (some (negative, found), after)
    else .ok (none, c :: rest)

def ofText (text : List Char) : Except SyntaxError (Numeral × List Char) := do
  let (negative, unsigned) := match text with
    | '-' :: more => (true, more)
    | more => (false, more)
  let (whole, rest) ← wholePart unsigned
  let (fraction, rest) ← fractionPart rest
  let (exponent, rest) ← exponentPart rest
  return (⟨negative, whole, fraction, exponent⟩, rest)

def natural (digits : List Nat) : Nat := digits.foldl (fun n d => 10 * n + d) 0

/-- Append digits to a significand as long as it stays below `2 ^ 64`; the count of digits taken. -/
def gather : (significand : Nat) → List Nat → Nat × Nat
  | significand, [] => (significand, 0)
  | significand, d :: rest =>
    if 10 * significand + d < 18446744073709551616 then
      let (all, taken) := gather (10 * significand + d) rest
      (all, taken + 1)
    else (significand, 0)

def widestPower : Nat := 308

/-- Scale a double by a power of ten, in steps of at most the widest one. -/
def scale (x : Double) (exponent : Int) : (fuel : Nat) → Option Double
  | 0 => some x
  | fuel + 1 =>
    if exponent.natAbs ≤ widestPower then do
      let power ← Double.nearest? false (Decimal.tenTo exponent.natAbs) 1
      if 0 ≤ exponent then x.mul? power else x.div? power
    else if x.isZero then some x
    else if 0 ≤ exponent then none
    else do
      let power ← Double.nearest? false (Decimal.tenTo widestPower) 1
      scale (← x.div? power) (exponent + widestPower) fuel

/-- The double closest in two roundings to `significand * 10 ^ exponent`. -/
def float (negative : Bool) (significand : Nat) (exponent : Int) : Except SyntaxError Number :=
  match (do scale (← Double.nearest? false significand 1) exponent 3) with
  | some x => .ok (.float { x with negative })
  | none => .error .numberTooLarge

/-- Powers of ten beyond this are settled without arithmetic. -/
def longestExponent : Nat := 2147483647

def value (numeral : Numeral) : Except SyntaxError Number :=
  let (whole, taken) := gather 0 numeral.whole
  let dropped := numeral.whole.length - taken
  match numeral.fraction, numeral.exponent with
  | none, none =>
    let exact := if numeral.negative then -(whole : Int) else whole
    match Number.ofInt? exact with
    | some number =>
      -- Minus zero is no integer.
      if dropped = 0 ∧ ¬(numeral.negative ∧ whole = 0) then .ok number
      else float numeral.negative whole dropped
    | none => float numeral.negative whole dropped
  | fraction, exponent =>
    let (significand, places) := gather whole (fraction.getD [])
    -- Digits that did not fit count as powers of ten.
    let start : Int := (dropped : Int) - places
    match exponent with
    | none => float numeral.negative significand start
    | some (downwards, written) =>
      let power := natural written
      if longestExponent < power then
        if significand ≠ 0 ∧ ¬downwards then .error .numberTooLarge
        else .ok (.float (Double.zero numeral.negative))
      else float numeral.negative significand (if downwards then start - power else start + power)

end Numeral

end KvTables.Json
