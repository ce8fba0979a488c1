import KvTables.Json.Draft
import KvTables.Json.Printer
import Mathlib.Tactic.IntervalCases

/-! Printed text is read back, and passed over, up to its closing quote. -/

set_option autoImplicit false

namespace KvTables.Json

inductive Spelled (c : Char) : List Char → Prop where
  | plain (noQuote : c ≠ '"') (noBackslash : c ≠ '\\') (visible : ¬c.toNat < 32) : Spelled c [c]
  | escape {tail : List Char} (reads : ∀ rest, Quoted.escape (tail ++ rest) = .ok (c, rest))
      (skips : ∀ rest, Quoted.skipEscape (tail ++ rest) = .ok rest) : Spelled c ('\\' :: tail)

/-- The control characters are few enough to go through. -/
theorem spelled_of_control (n : Nat) (control : n < 32) :
    Spelled (Char.ofNat n) (escaped (Char.ofNat n)) := by
  interval_cases n <;> exact .escape (fun _ => rfl) (fun _ => rfl)

theorem spelled_escaped (c : Char) : Spelled c (escaped c) := by
  by_cases control : c.toNat < 32
  · have spelled := spelled_of_control c.toNat control
    rwa [Char.ofNat_toNat] at spelled
  · by_cases quote : c = '"'
    · subst quote
      exact .escape (fun _ => rfl) (fun _ => rfl)
    · by_cases backslash : c = '\\'
      · subst backslash
        exact .escape (fun _ => rfl) (fun _ => rfl)
      · have same : escaped c = [c] := by
          unfold escaped
          split <;> first
            | exact absurd rfl quote
            | exact absurd rfl backslash
            | exact absurd (by decide) control
            | exact if_neg control
        rw [same]
        exact .plain quote backslash control

theorem Spelled.length_pos {c : Char} {written : List Char} (spelled : Spelled c written) :
    0 < written.length := by
  cases spelled <;> exact Nat.succ_pos _

theorem length_le_flatMap_escaped (text : List Char) :
    text.length ≤ (text.flatMap escaped).length := by
  induction text with
  | nil => exact Nat.le_refl 0
  | cons c more ih =>
    have positive := (spelled_escaped c).length_pos
    rw [List.flatMap_cons, List.length_append, List.length_cons]
    omega

namespace Quoted

variable {c : Char} {written : List Char}

theorem readWithin_spelled (spelled : Spelled c written) (mark : Char)
    (rounds rest : List Char) :
    readWithin (mark :: rounds) (written ++ rest) =
      (readWithin rounds rest).map fun (more, after) => (c :: more, after) := by
  cases spelled with
  | plain noQuote noBackslash visible =>
    simp only [List.singleton_append, readWithin, noQuote, noBackslash, visible, if_false]
    cases readWithin rounds rest <;> rfl
  | escape reads skips =>
    have notQuote : '\\' ≠ '"' := by decide
    simp only [List.cons_append, readWithin, notQuote, if_false, if_true, reads, bind,
      Except.bind]
    cases readWithin rounds rest <;> rfl

theorem skipWithin_spelled (spelled : Spelled c written) (mark : Char)
    (rounds rest : List Char) :
    skipWithin (mark :: rounds) (written ++ rest) = skipWithin rounds rest := by
  cases spelled with
  | plain noQuote noBackslash visible =>
    simp only [List.singleton_append, skipWithin, noQuote, noBackslash, visible, if_false]
  | escape reads skips =>
    have notQuote : '\\' ≠ '"' := by decide
    simp only [List.cons_append, skipWithin, notQuote, if_false, if_true, skips]
    rfl

/-- Every character takes one round, however it is spelled. -/
theorem readWithin_escaped (text : List Char) {rounds : List Char} (rest : List Char)
    (enough : text.length < rounds.length) :
    readWithin rounds (text.flatMap escaped ++ '"' :: rest) = .ok (text, rest) := by
  induction text generalizing rounds with
  | nil =>
    cases rounds with
    | nil => cases enough
    | cons mark rounds => rfl
  | cons c more ih =>
    cases rounds with
    | nil => cases enough
    | cons mark rounds =>
      rw [List.flatMap_cons, List.append_assoc, readWithin_spelled (spelled_escaped c),
        ih (Nat.lt_of_succ_lt_succ enough)]
      rfl

theorem skipWithin_escaped (text : List Char) {rounds : List Char} (rest : List Char)
    (enough : text.length < rounds.length) :
    skipWithin rounds (text.flatMap escaped ++ '"' :: rest) = .ok rest := by
  induction text generalizing rounds with
  | nil =>
    cases rounds with
    | nil => cases enough
    | cons mark rounds => rfl
  | cons c more ih =>
    cases rounds with
    | nil => cases enough
    | cons mark rounds =>
      rw [List.flatMap_cons, List.append_assoc, skipWithin_spelled (spelled_escaped c),
        ih (Nat.lt_of_succ_lt_succ enough)]

end Quoted

/-- What follows the opening quote of a printed text is that text. -/
theorem Draft.quoted_print (text : String) (rest : List Char) :
    Draft.quoted (text.toList.flatMap escaped ++ '"' :: rest) =
      (⟨.ok text, .ok ()⟩, some rest) := by
  have enough : text.toList.length < (text.toList.flatMap escaped ++ '"' :: rest).length := by
    have short := length_le_flatMap_escaped text.toList
    rw [List.length_append, List.length_cons]
    omega
  have read : Quoted.read (text.toList.flatMap escaped ++ '"' :: rest) = .ok (text, rest) := by
    simp only [Quoted.read, Quoted.readWithin_escaped text.toList rest enough, bind, Except.bind,
      String.ofList_toList]
    rfl
  simp only [Draft.quoted, read, Quoted.skip, Quoted.skipWithin_escaped text.toList rest enough]
  rfl

end KvTables.Json
