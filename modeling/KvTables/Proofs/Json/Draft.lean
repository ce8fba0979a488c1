import KvTables.Proofs.Json.Numeral
import KvTables.Proofs.Json.Quoted

/-! The printed text of a tree breaks nowhere, and its draft is that of the tree.

Doubles are left out: their text is shortest, not exact. The induction is on the tree, one case for
each way a value is printed; what follows a value must not continue a number.
-/

set_option autoImplicit false

namespace KvTables.Json

mutual

def isExact : Json → Bool
  | .num (.float _) => false
  | .arr items => isExactItems items
  | .obj fields => isExactFields fields
  | _ => true

def isExactItems : List Json → Bool
  | [] => true
  | item :: rest => item.isExact && isExactItems rest

def isExactFields : List (String × Json) → Bool
  | [] => true
  | (_, value) :: rest => value.isExact && isExactFields rest

end

namespace Draft

mutual

def ofJson : Json → Draft
  | .null => .null
  | .bool value => .bool value
  | .num value => .num ⟨.ok value, .ok ()⟩
  | .str text => .str ⟨.ok text, .ok ()⟩
  | .arr items => .list (ofItems items) .closed
  | .obj fields => .object (ofFields fields) .closed

def ofItems : List Json → List Draft
  | [] => []
  | item :: rest => ofJson item :: ofItems rest

def ofFields : List (String × Json) → List (Leaf String × Draft)
  | [] => []
  | (key, value) :: rest => (⟨.ok key, .ok ()⟩, ofJson value) :: ofFields rest

end

end Draft

/-- A value starts here: there is no blank, and nothing that closes a list. -/
def Starts (text : List Char) : Prop := ∃ c more, text = c :: more ∧ isBlank c = false ∧ c ≠ ']'

theorem Starts.append {text : List Char} (starts : Starts text) (rest : List Char) :
    Starts (text ++ rest) := by
  obtain ⟨c, more, rfl, solid, notClose⟩ := starts
  exact ⟨c, more ++ rest, rfl, solid, notClose⟩

theorem dropBlanks_starts {text : List Char} (starts : Starts text) : dropBlanks text = text := by
  obtain ⟨c, more, rfl, solid, -⟩ := starts
  exact List.dropWhile_cons_of_neg (by simp [solid])

def numeric (c : Char) : Bool := c = '-' || c.isDigit

theorem not_numeric {c other : Char} (isNumeric : numeric c) (notNumeric : numeric other = false) :
    c ≠ other := fun same => by simp [same, notNumeric] at isNumeric

theorem starts_numeric {c : Char} (isNumeric : numeric c) (more : List Char) :
    Starts (c :: more) := by
  have space : c ≠ ' ' := not_numeric isNumeric rfl
  have newline : c ≠ '\n' := not_numeric isNumeric rfl
  have tab : c ≠ '\t' := not_numeric isNumeric rfl
  have carriage : c ≠ '\r' := not_numeric isNumeric rfl
  exact ⟨c, more, rfl, by simp [isBlank, space, newline, tab, carriage], not_numeric isNumeric rfl⟩

theorem print_int_cons (value : Int) (fits : FitsWord value) :
    ∃ c more, (Number.int value fits).print = c :: more ∧ numeric c := by
  rw [Numeral.print_int]
  by_cases negative : value < 0
  · rw [if_pos negative]
    exact ⟨'-', _, rfl, rfl⟩
  · rw [if_neg negative]
    cases same : Nat.toDigits 10 value.natAbs with
    | nil => exact absurd same Nat.toDigits_ne_nil
    | cons c more =>
      have isDigit : c.isDigit := isDigit_of_mem_toDigits (same ▸ List.mem_cons_self)
      exact ⟨c, more, rfl, by simp [numeric, isDigit]⟩

theorem starts_print (json : Json) (exactly : json.isExact) : Starts json.print := by
  cases json with
  | null => exact ⟨'n', _, rfl, rfl, by decide⟩
  | bool value => cases value <;> exact ⟨_, _, rfl, rfl, by decide⟩
  | num value =>
    cases value with
    | float value => cases exactly
    | int value fits =>
      obtain ⟨c, more, same, isNumeric⟩ := print_int_cons value fits
      rw [print, same]
      exact starts_numeric isNumeric more
  | str text => exact ⟨'"', _, rfl, rfl, by decide⟩
  | arr items => exact ⟨'[', _, rfl, rfl, by decide⟩
  | obj fields => exact ⟨'\x7b', _, rfl, rfl, by decide⟩

namespace Draft

-- None of the characters that are told apart before numbers can start one.
theorem value_numeric (fuel : Nat) {c : Char} (isNumeric : numeric c) (more : List Char) :
    value (fuel + 1) (c :: more) = number (c :: more) := by
  have digits : c = '-' ∨ c.isDigit := by simpa [numeric] using isNumeric
  unfold value
  rw [dropBlanks_starts (starts_numeric isNumeric more)]
  split <;> rename_i same <;> cases same <;>
    first
    | exact absurd isNumeric (by decide)
    | exact if_pos digits

theorem value_str (fuel : Nat) (text : List Char) :
    value (fuel + 1) ('"' :: text) = (.str (quoted text).1, (quoted text).2) := rfl

theorem value_list (fuel : Nat) {text : List Char} (starts : Starts text) :
    value (fuel + 1) ('[' :: text) =
      (.list (items fuel text).1 (items fuel text).2.1, (items fuel text).2.2) := by
  have solid : dropBlanks ('[' :: text) = '[' :: text := rfl
  unfold value
  rw [solid]
  simp only [dropBlanks_starts starts]
  obtain ⟨c, more, rfl, -, notClose⟩ := starts
  split
  · next same => cases same
  · next same => exact absurd (List.cons.inj same).1 notClose
  · rfl

theorem value_object (fuel : Nat) (text : List Char) :
    value (fuel + 1) ('\x7b' :: '"' :: text) =
      (.object (pairs fuel text).1 (pairs fuel text).2.1, (pairs fuel text).2.2) := rfl

theorem afterItem_comma {text : List Char} (starts : Starts text) :
    afterItem (',' :: text) = .inr text := by
  have solid : dropBlanks (',' :: text) = ',' :: text := rfl
  unfold afterItem
  rw [solid]
  simp only [dropBlanks_starts starts]
  obtain ⟨c, more, rfl, -, notClose⟩ := starts
  split
  · next same => cases same
  · next same => exact absurd (List.cons.inj same).1 notClose
  · rfl

theorem stops_items (items : List Json) (after : List Char) :
    Stops (printItems [','] items ++ ']' :: after) := by
  cases items <;> (intro c head; cases head; decide)

theorem stops_fields (fields : List (String × Json)) (after : List Char) :
    Stops (printFields [','] fields ++ '\x7d' :: after) := by
  cases fields <;> (intro c head; cases head; decide)

theorem printItems_append (item : Json) (rest : List Json) (after : List Char) :
    printItems [] (item :: rest) ++ after = item.print ++ (printItems [','] rest ++ after) := by
  simp [printItems]

theorem starts_items {item : Json} (exactly : item.isExact) (rest : List Json) (after : List Char) :
    Starts (printItems [] (item :: rest) ++ after) := by
  rw [printItems_append]
  exact (starts_print item exactly).append _

def printMembers : List (String × Json) → List Char
  | [] => []
  | (key, value) :: rest =>
    key.toList.flatMap escaped ++ '"' :: ':' :: (value.print ++ printFields [','] rest)

theorem printFields_cons (lead : List Char) (field : String × Json)
    (rest : List (String × Json)) :
    printFields lead (field :: rest) = lead ++ '"' :: printMembers (field :: rest) := by
  obtain ⟨key, value⟩ := field
  simp [printFields, printText, printMembers]

theorem printMembers_append (key : String) (value : Json) (rest : List (String × Json))
    (after : List Char) :
    printMembers ((key, value) :: rest) ++ after =
      key.toList.flatMap escaped ++
        '"' :: ':' :: (value.print ++ (printFields [','] rest ++ after)) := by
  simp [printMembers]

theorem length_printMembers (key : String) (value : Json) (rest : List (String × Json)) :
    value.print.length + (printFields [','] rest).length <
      (printMembers ((key, value) :: rest)).length := by
  simp only [printMembers, List.length_append, List.length_cons]
  omega

theorem print_pos {json : Json} (exactly : json.isExact) : 0 < json.print.length := by
  obtain ⟨c, more, same, -, -⟩ := starts_print json exactly
  rw [same]
  exact Nat.succ_pos _

-- A container spends one unit of fuel on itself and one on each member, and each of these has at
-- least one character of its own: twice the length of the text is enough.
mutual

theorem value_print : (json : Json) → json.isExact → {rest : List Char} → Stops rest →
    (fuel : Nat) → 2 * json.print.length ≤ fuel + 1 →
      value (fuel + 1) (json.print ++ rest) = (ofJson json, some rest)
  | .null, _, _, _, _, _ => rfl
  | .bool true, _, _, _, _, _ => rfl
  | .bool false, _, _, _, _, _ => rfl
  | .num (.int number fits), _, rest, stops, fuel, _ => by
    obtain ⟨c, more, same, isNumeric⟩ := print_int_cons number fits
    have read := number_print number fits stops
    rw [print]
    rw [same, List.cons_append] at read ⊢
    rw [value_numeric fuel isNumeric, read]
    rfl
  | .str text, _, rest, _, fuel, _ => by
    have printed : (Json.str text).print ++ rest =
        '"' :: (text.toList.flatMap escaped ++ '"' :: rest) := by simp [print, printText]
    rw [printed, value_str, quoted_print]
    rfl
  | .arr [], _, _, _, _, _ => rfl
  | .arr (item :: more), exactly, rest, _, fuel, enough => by
    have printed : (Json.arr (item :: more)).print =
        '[' :: (printItems [] (item :: more) ++ [']']) := rfl
    obtain ⟨exactItem, -⟩ : item.isExact ∧ isExactItems more := by
      simpa [isExact, isExactItems] using exactly
    have starts := starts_items exactItem more (']' :: rest)
    rw [printed, List.length_cons, List.length_append] at enough
    obtain ⟨less, rfl⟩ : ∃ less, fuel = less + 1 := ⟨fuel - 1, by omega⟩
    have read := items_print (item :: more) (List.cons_ne_nil _ _) exactly rest less (by omega)
    rw [printed, List.cons_append, List.append_assoc, List.singleton_append,
      value_list (less + 1) starts, read]
    rfl
  | .obj [], _, _, _, _, _ => rfl
  | .obj (field :: more), exactly, rest, _, fuel, enough => by
    have printed : (Json.obj (field :: more)).print =
        '\x7b' :: '"' :: (printMembers (field :: more) ++ ['\x7d']) := by
      simp [print, printFields_cons]
    rw [printed, List.length_cons, List.length_cons, List.length_append] at enough
    obtain ⟨less, rfl⟩ : ∃ less, fuel = less + 1 := ⟨fuel - 1, by omega⟩
    have read := pairs_print (field :: more) (List.cons_ne_nil _ _) exactly rest less (by omega)
    rw [printed, List.cons_append, List.cons_append, List.append_assoc, List.singleton_append,
      value_object, read]
    rfl

theorem items_print : (list : List Json) → list ≠ [] → isExactItems list → (after : List Char) →
    (fuel : Nat) → 2 * (printItems [] list).length ≤ fuel →
      items (fuel + 1) (printItems [] list ++ ']' :: after) = (ofItems list, .closed, some after)
  | [], nonempty, _, _, _, _ => absurd rfl nonempty
  | item :: more, _, exactly, after, fuel, enough => by
    obtain ⟨exactItem, exactMore⟩ : item.isExact ∧ isExactItems more := by
      simpa [isExactItems] using exactly
    have positive := print_pos exactItem
    have lengths : (printItems [] (item :: more)).length =
        item.print.length + (printItems [','] more).length := by simp [printItems]
    obtain ⟨less, rfl⟩ : ∃ less, fuel = less + 1 := ⟨fuel - 1, by omega⟩
    have read := value_print item exactItem (stops_items more after) less (by omega)
    rw [printItems_append, items, read]
    match more, exactMore with
    | [], _ => rfl
    | next :: others, exactMore =>
      have behind : printItems [','] (next :: others) ++ ']' :: after =
          ',' :: (printItems [] (next :: others) ++ ']' :: after) := rfl
      have comma : (printItems [','] (next :: others)).length =
          (printItems [] (next :: others)).length + 1 := rfl
      have exactNext : next.isExact := (Bool.and_eq_true_iff.1 exactMore).1
      have later := items_print (next :: others) (List.cons_ne_nil _ _) exactMore after less
        (by omega)
      simp only [behind, afterItem_comma (starts_items exactNext others (']' :: after)), later]
      rfl

theorem pairs_print : (fields : List (String × Json)) → fields ≠ [] → isExactFields fields →
    (after : List Char) → (fuel : Nat) → 2 * (printMembers fields).length ≤ fuel →
      pairs (fuel + 1) (printMembers fields ++ '\x7d' :: after) =
        (ofFields fields, .closed, some after)
  | [], nonempty, _, _, _, _ => absurd rfl nonempty
  | (key, json) :: more, _, exactly, after, fuel, enough => by
    obtain ⟨exactValue, exactMore⟩ : json.isExact ∧ isExactFields more := by
      simpa [isExactFields] using exactly
    have lengths := length_printMembers key json more
    obtain ⟨less, rfl⟩ : ∃ less, fuel = less + 1 := ⟨fuel - 1, by omega⟩
    have read := value_print json exactValue (stops_fields more after) less (by omega)
    -- Behind the key no blank is skipped, since none is printed.
    have colon (text : List Char) : dropBlanks (':' :: text) = ':' :: text := rfl
    rw [printMembers_append, pairs, quoted_print]
    simp only [colon, read]
    match more, exactMore with
    | [], _ => rfl
    | next :: others, exactMore =>
      have behind : printFields [','] (next :: others) ++ '\x7d' :: after =
          ',' :: '"' :: (printMembers (next :: others) ++ '\x7d' :: after) := by
        rw [printFields_cons]
        rfl
      have comma (text : List Char) : afterPair (',' :: '"' :: text) = .inr text := rfl
      have shorter : (printMembers (next :: others)).length <
          (printFields [','] (next :: others)).length := by
        rw [printFields_cons]
        simp only [List.length_append, List.length_cons]
        omega
      have later := pairs_print (next :: others) (List.cons_ne_nil _ _) exactMore after less
        (by omega)
      simp only [behind, comma, later]
      rfl

end

/-- The whole text of a tree is its draft, with nothing behind it. -/
theorem ofText_toText (json : Json) (exactly : json.isExact) :
    ofText json.toText = (ofJson json, some []) := by
  have stops : Stops [] := fun c member => nomatch member
  have read := value_print json exactly stops (2 * json.print.length + 1) (by omega)
  rw [List.append_nil] at read
  have length : (String.ofList json.print).length = json.print.length := String.length_ofList
  rw [ofText, toText, length, String.toList_ofList]
  exact read

end Draft

end KvTables.Json
