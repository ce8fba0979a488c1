import KvTables.Proofs.Json.Draft
import KvTables.Yaml.FromText

/-! Plain scalars that write an integer in decimal mean that integer.

The core rules know other spellings of numbers, so each of them is ruled out by how a decimal starts.
-/

set_option autoImplicit false

namespace KvTables.Yaml.Core

open Json (FitsWord Number digitValue toDigits_eq_cons isDigit_of_mem_toDigits)

theorem digitValue?_of_isDigit {c : Char} (isDigit : c.isDigit) :
    digitValue? c = some (digitValue c) := if_pos isDigit

theorem digitValue_lt {c : Char} (isDigit : c.isDigit) : digitValue c < 10 := by
  obtain ⟨-, atMost⟩ : 48 ≤ c.val ∧ c.val ≤ 57 := by simpa [Char.isDigit] using isDigit
  have below : c.toNat ≤ 57 := UInt32.le_iff_toNat_le.1 atMost
  have zero : '0'.toNat = 48 := rfl
  rw [digitValue, zero]
  omega

/-- Decimal digits write the number they are the digits of. -/
theorem foldlM_digits {written : List Char} (all : ∀ c ∈ written, c.isDigit) (start : Nat) :
    (written.foldlM (fun n c => do
      let d ← digitValue? c
      if d < 10 then return 10 * n + d else none) start : Option Nat) =
      some (Nat.ofDigitChars 10 written start) := by
  induction written generalizing start with
  | nil => rfl
  | cons c more ih =>
    have isDigit := all c List.mem_cons_self
    rw [List.foldlM_cons, digitValue?_of_isDigit isDigit]
    simp only [Option.bind_eq_bind, Option.bind_some, if_pos (digitValue_lt isDigit)]
    exact ih (fun other member => all other (List.mem_cons_of_mem _ member)) _

theorem natural?_toDigits (n : Nat) : natural? 10 (Nat.toDigits 10 n) = some n := by
  have some : (Nat.toDigits 10 n).isEmpty = false := by
    rw [List.isEmpty_eq_false_iff]
    exact Nat.toDigits_ne_nil
  rw [natural?, some, if_neg Bool.false_ne_true,
    foldlM_digits (fun _ => isDigit_of_mem_toDigits), Nat.ofDigitChars_ten_toDigits]

theorem isPadded_toDigits (n : Nat) : isPadded (Nat.toDigits 10 n) = false := by
  rcases Nat.eq_zero_or_pos n with rfl | positive
  · rfl
  · obtain ⟨first, more, same, nonzero⟩ := toDigits_eq_cons positive
    simp [isPadded, same, nonzero]

theorem magnitude?_toDigits (n : Nat) : magnitude? (Nat.toDigits 10 n) = some n := by
  have natural := natural?_toDigits n
  have padded := isPadded_toDigits n
  rcases Nat.eq_zero_or_pos n with rfl | positive
  · rfl
  · obtain ⟨first, more, same, nonzero⟩ := toDigits_eq_cons positive
    rw [same] at natural padded ⊢
    rw [magnitude?, padded, if_neg Bool.false_ne_true, natural]
    · rfl
    -- The marks of other bases would follow a zero.
    all_goals exact fun digits equal => nonzero (List.cons.inj equal).1

variable (value : Int) (fits : FitsWord value)

theorem unsignedPart_print :
    unsignedPart (Number.int value fits).print =
      (decide (value < 0), Nat.toDigits 10 value.natAbs) := by
  rw [Json.Numeral.print_int]
  by_cases negative : value < 0
  · rw [if_pos negative, decide_eq_true negative]
    rfl
  · rw [if_neg negative, decide_eq_false negative, List.nil_append]
    unfold unsignedPart
    split
    · next rest same =>
      have isDigit : '-'.isDigit = true := isDigit_of_mem_toDigits (same ▸ List.mem_cons_self)
      exact absurd isDigit (by decide)
    · next rest same =>
      have isDigit : '+'.isDigit = true := isDigit_of_mem_toDigits (same ▸ List.mem_cons_self)
      exact absurd isDigit (by decide)
    · rfl

theorem int?_print : int? (Number.int value fits).print = some value := by
  rw [int?, unsignedPart_print]
  simp only [magnitude?_toDigits, decide_eq_true_eq]
  have signed : (if value < 0 then -(value.natAbs : Int) else value.natAbs) = value := by
    split <;> omega
  exact congrArg some signed

theorem integer?_print : integer? (Number.int value fits).print = some (.int value) := by
  have notMinusZero : ¬(value = 0 ∧ value < 0) := by omega
  simp only [integer?, int?_print, unsignedPart_print, Option.bind_eq_bind, Option.bind_some,
    decide_eq_true_eq, if_neg notMinusZero, if_pos fits]
  rfl

/-- The text of an integer is no word. -/
theorem print_not_mem {words : List String}
    (letters : words.all fun word => !word.toList.head?.any Json.numeric) :
    String.ofList (Number.int value fits).print ∉ words := by
  intro member
  obtain ⟨c, more, same, isNumeric⟩ := Json.print_int_cons value fits
  have letter := List.all_eq_true.1 letters _ member
  rw [String.toList_ofList, same, List.head?_cons, Option.any_some, isNumeric] at letter
  cases letter

theorem isNull_print : isNull (String.ofList (Number.int value fits).print) = false := by
  rw [isNull, List.contains_eq_mem, decide_eq_false_iff_not]
  exact print_not_mem value fits (by decide)

theorem print_ne_empty : String.ofList (Number.int value fits).print ≠ "" := by
  have other : String.ofList (Number.int value fits).print ∉ [""] :=
    print_not_mem value fits (by decide)
  exact fun empty => other (List.mem_singleton.2 empty)

theorem bool?_print : bool? (String.ofList (Number.int value fits).print) = none := by
  have notTrue : String.ofList (Number.int value fits).print ∉ ["true", "True", "TRUE"] :=
    print_not_mem value fits (by decide)
  have notFalse : String.ofList (Number.int value fits).print ∉ ["false", "False", "FALSE"] :=
    print_not_mem value fits (by decide)
  simp [bool?, List.contains_eq_mem, notTrue, notFalse]

theorem plain_print : plain (String.ofList (Number.int value fits).print) = .int value := by
  have some : ¬(String.ofList (Number.int value fits).print = "" ∨
      isNull (String.ofList (Number.int value fits).print) = true) := by
    rintro (empty | null)
    · exact print_ne_empty value fits empty
    · simp [isNull_print] at null
  rw [plain, if_neg some, bool?_print]
  simp only [String.toList_ofList, integer?_print]

theorem count?_print (natural : ¬value < 0) :
    Cursor.count? (String.ofList (Number.int value fits).print) =
      some (UInt64.ofNat value.toNat) := by
  have read := int?_print value fits
  have signless : ∀ more, (Number.int value fits).print ≠ '-' :: more := by
    intro more
    rw [Json.Numeral.print_int, if_neg natural, List.nil_append, ← List.append_nil (Nat.toDigits _ _)]
    exact Json.toDigits_append_ne_minus _ [] more
  have below := fits.2
  unfold Cursor.count?
  rw [String.toList_ofList]
  split
  · next more same => exact absurd same (signless more)
  · rw [read]
    simp only
    rw [if_pos ⟨by omega, below⟩]

end KvTables.Yaml.Core
