import KvTables.Json.Printer
import KvTables.Json.Draft

/-! Printed integers are read back exactly.

An integer is printed without leading zeros, and its digits fit into 64 bits with their sign left
off. What follows a number must not continue it.
-/

set_option autoImplicit false

namespace KvTables.Json

def Stops (rest : List Char) : Prop :=
  ∀ c ∈ rest.head?, c.isDigit = false ∧ c ≠ '.' ∧ c ≠ 'e' ∧ c ≠ 'E'

def digitValue (c : Char) : Nat := c.toNat - '0'.toNat

theorem digits_stops {rest : List Char} (stops : Stops rest) : digits rest = ([], rest) := by
  cases rest with
  | nil => rfl
  | cons c more =>
    have other : c.isDigit = false := (stops c rfl).1
    simp [digits, digit?, other]

theorem digits_append {written rest : List Char} (all : ∀ c ∈ written, c.isDigit)
    (stops : Stops rest) : digits (written ++ rest) = (written.map digitValue, rest) := by
  induction written with
  | nil => exact digits_stops stops
  | cons c more ih =>
    have isDigit : c.isDigit := all c List.mem_cons_self
    have found : digit? c = some (digitValue c) := if_pos isDigit
    rw [List.cons_append, digits, found, ih fun c member => all c (List.mem_cons_of_mem _ member)]
    rfl

theorem le_ofDigitChars (written : List Char) (start : Nat) :
    start ≤ Nat.ofDigitChars 10 written start := by
  rw [Nat.ofDigitChars_eq_ofDigitChars_zero]
  have positive : 0 < 10 ^ written.length := Nat.pow_pos (by decide)
  exact Nat.le_add_right_of_le (Nat.le_mul_of_pos_left start positive)

-- Digits that do not fit would be dropped without a fault, so the bound is on the whole value. It
-- holds of every prefix, since more digits never make a value smaller.
theorem gather_digits {written : List Char} {start : Nat}
    (fits : Nat.ofDigitChars 10 written start < 18446744073709551616) :
    Numeral.gather start (written.map digitValue) =
      (Nat.ofDigitChars 10 written start, written.length) := by
  induction written generalizing start with
  | nil => rfl
  | cons c more ih =>
    rw [Nat.ofDigitChars_cons] at fits ⊢
    have below : 10 * start + digitValue c < 18446744073709551616 :=
      Nat.lt_of_le_of_lt (le_ofDigitChars more _) fits
    have later : Numeral.gather (10 * start + digitValue c) (more.map digitValue) = _ := ih fits
    rw [List.map_cons, Numeral.gather, if_pos below, later]
    rfl

theorem toDigits_eq_cons {n : Nat} (positive : 0 < n) :
    ∃ first more, Nat.toDigits 10 n = first :: more ∧ first ≠ '0' := by
  induction n using Nat.strongRecOn with
  | ind n ih =>
    by_cases small : n < 10
    · refine ⟨n.digitChar, [], Nat.toDigits_of_lt_base small, fun zero => ?_⟩
      exact absurd (Nat.digitChar_eq_zero.1 zero) (by omega)
    · obtain ⟨first, more, same, nonzero⟩ := ih (n / 10) (by omega) (by omega)
      refine ⟨first, more ++ [(n % 10).digitChar], ?_, nonzero⟩
      rw [Nat.toDigits_of_base_le (by decide) (by omega), same, List.cons_append]

theorem isDigit_of_mem_toDigits {n : Nat} {c : Char} (member : c ∈ Nat.toDigits 10 n) : c.isDigit :=
  Nat.isDigit_of_mem_toDigits (by decide) (by decide) member

theorem toDigits_append_ne_minus (n : Nat) (rest more : List Char) :
    Nat.toDigits 10 n ++ rest ≠ '-' :: more := by
  intro equal
  cases same : Nat.toDigits 10 n with
  | nil => exact Nat.toDigits_ne_nil same
  | cons first others =>
    rw [same, List.cons_append] at equal
    obtain rfl : first = '-' := (List.cons.inj equal).1
    have isDigit : '-'.isDigit = true := isDigit_of_mem_toDigits (same ▸ List.mem_cons_self)
    exact absurd isDigit (by decide)

namespace Numeral

theorem wholePart_toDigits (n : Nat) {rest : List Char} (stops : Stops rest) :
    wholePart (Nat.toDigits 10 n ++ rest) = .ok ((Nat.toDigits 10 n).map digitValue, rest) := by
  rcases Nat.eq_zero_or_pos n with rfl | positive
  · rw [Nat.toDigits_zero, List.singleton_append, wholePart, digits_stops stops]
    rfl
  · have found : digits (Nat.toDigits 10 n ++ rest) = ((Nat.toDigits 10 n).map digitValue, rest) :=
      digits_append (fun _ => isDigit_of_mem_toDigits) stops
    obtain ⟨first, more, same, nonzero⟩ := toDigits_eq_cons positive
    rw [same, List.cons_append, List.map_cons] at found ⊢
    unfold wholePart
    split
    · next equal => exact absurd (List.cons.inj equal).1 nonzero
    · rw [found]

theorem fractionPart_stops {rest : List Char} (stops : Stops rest) :
    fractionPart rest = .ok (none, rest) := by
  unfold fractionPart
  split
  · exact absurd rfl (stops '.' rfl).2.1
  · rfl

theorem exponentPart_stops {rest : List Char} (stops : Stops rest) :
    exponentPart rest = .ok (none, rest) := by
  cases rest with
  | nil => rfl
  | cons c more =>
    obtain ⟨-, -, notSmall, notLarge⟩ := stops c rfl
    simp [exponentPart, notSmall, notLarge]

def ofInt (value : Int) : Numeral :=
  ⟨decide (value < 0), (Nat.toDigits 10 value.natAbs).map digitValue, none, none⟩

theorem print_int (value : Int) (fits : FitsWord value) :
    (Number.int value fits).print =
      (if value < 0 then ['-'] else []) ++ Nat.toDigits 10 value.natAbs := by
  rw [Number.print, Int.toString_eq_repr, Int.repr_eq_if]
  split
  · next natural =>
    have same : value.toNat = value.natAbs := by omega
    rw [if_neg (by omega), Nat.toList_repr, same, List.nil_append]
  · next negative =>
    have same : (-value).toNat = value.natAbs := by omega
    rw [if_pos (by omega), String.toList_append, Nat.toList_repr, same]
    rfl

theorem ofText_print (value : Int) (fits : FitsWord value) {rest : List Char}
    (stops : Stops rest) :
    ofText ((Number.int value fits).print ++ rest) = .ok (ofInt value, rest) := by
  have whole := wholePart_toDigits value.natAbs stops
  rw [print_int, List.append_assoc]
  by_cases negative : value < 0
  · rw [if_pos negative, List.singleton_append, ofText, ofInt, decide_eq_true negative]
    simp only [whole, fractionPart_stops stops, exponentPart_stops stops, bind, Except.bind]
    rfl
  · rw [if_neg negative, List.nil_append, ofText, ofInt, decide_eq_false negative]
    -- The text starts with a digit, so that no sign is taken off.
    · simp only [whole, fractionPart_stops stops, exponentPart_stops stops, bind, Except.bind]
      rfl
    · exact toDigits_append_ne_minus value.natAbs rest

theorem value_ofInt (value : Int) (fits : FitsWord value) :
    (ofInt value).value = .ok (.int value fits) := by
  have small : value.natAbs < 18446744073709551616 := by
    obtain ⟨above, below⟩ := fits
    omega
  have gathered : gather 0 ((Nat.toDigits 10 value.natAbs).map digitValue) =
      (value.natAbs, (Nat.toDigits 10 value.natAbs).length) := by
    have all := @gather_digits (Nat.toDigits 10 value.natAbs) 0
    rw [Nat.ofDigitChars_ten_toDigits] at all
    exact all small
  have signed : (if value < 0 then -(value.natAbs : Int) else value.natAbs) = value := by
    split <;> omega
  -- Minus zero would be read as a double; zero is printed without a sign.
  have notMinusZero : ¬(value < 0 ∧ value.natAbs = 0) := by omega
  simp only [Numeral.value, ofInt, gathered, List.length_map, Nat.sub_self, decide_eq_true_eq,
    signed, Number.ofInt?, dif_pos fits, notMinusZero, not_false_eq_true, and_self, if_true]

end Numeral

theorem Draft.number_print (value : Int) (fits : FitsWord value) {rest : List Char}
    (stops : Stops rest) :
    Draft.number ((Number.int value fits).print ++ rest) =
      (.num ⟨.ok (.int value fits), .ok ()⟩, some rest) := by
  simp only [Draft.number, Numeral.ofText_print value fits stops, Numeral.value_ofInt value fits]

end KvTables.Json
