import KvTables.Proofs.Reading.Showing

/-! A text that writes a tree breaks nowhere.

Passing over a value checks less than reading it does. Where the tree of a text can be had, all ways
to go on agree therefore, and the draft of the text is that of its tree.
-/

set_option autoImplicit false

namespace KvTables.Json

theorem ok_of_bind {ε α β : Type} {first : Except ε α} {next : α → Except ε β} {result : β}
    (ok : (first >>= next) = .ok result) : ∃ value, first = .ok value ∧ next value = .ok result := by
  cases first with
  | error cause => cases ok
  | ok value => exact ⟨value, rfl, ok⟩

namespace Quoted

theorem length_of_hexUnit {text rest : List Char} {unit : Nat}
    (read : hexUnit text = .ok (unit, rest)) : text.length = rest.length + 4 := by
  unfold hexUnit at read
  split at read
  · split at read
    · cases read
      rfl
    · cases read
  · cases read

theorem trailingUnit_ok {text rest : List Char} {unit : Nat}
    (read : trailingUnit text = .ok (unit, rest)) :
    ∃ digits, text = '\\' :: 'u' :: digits ∧ hexUnit digits = .ok (unit, rest) := by
  unfold trailingUnit at read
  split at read
  · cases read
  · cases read
  · next digits =>
    obtain ⟨⟨value, after⟩, hex, paired⟩ := ok_of_bind read
    refine ⟨digits, rfl, ?_⟩
    dsimp only at paired
    split at paired
    · cases paired
      exact hex
    · cases paired
  · cases read

/-- What reading an escape takes is passed over in one step, or in two for a surrogate pair. -/
inductive Passes (text rest : List Char) : Prop where
  | once (skips : skipEscape text = .ok rest) (shorter : rest.length < text.length)
  | twice {digits : List Char} (skips : skipEscape text = .ok ('\\' :: 'u' :: digits))
    (skipsSecond : skipEscape ('u' :: digits) = .ok rest)
    (shorter : rest.length + 2 < text.length)

theorem skipEscape_unicode {digits rest : List Char} {unit : Nat}
    (hex : hexUnit digits = .ok (unit, rest)) : skipEscape ('u' :: digits) = .ok rest := by
  change (hexUnit digits >>= fun found => .ok found.2) = _
  rw [hex]
  rfl

theorem passes_of_unicodeEscape {text rest : List Char} {meant : Char}
    (read : unicodeEscape text = .ok (meant, rest)) : Passes ('u' :: text) rest := by
  rw [unicodeEscape] at read
  obtain ⟨⟨unit, after⟩, hex, goesOn⟩ := ok_of_bind read
  have length := length_of_hexUnit hex
  have skips := skipEscape_unicode hex
  dsimp only at goesOn
  split at goesOn
  · cases goesOn
  · split at goesOn
    · obtain ⟨⟨second, behind⟩, trailing, same⟩ := ok_of_bind goesOn
      obtain ⟨digits, rfl, hexSecond⟩ := trailingUnit_ok trailing
      obtain ⟨-, rfl⟩ := Prod.mk.inj (Except.ok.inj same)
      have lengthSecond := length_of_hexUnit hexSecond
      refine .twice skips (skipEscape_unicode hexSecond) ?_
      simp only [List.length_cons] at length ⊢
      omega
    · obtain ⟨-, rfl⟩ := Prod.mk.inj (Except.ok.inj goesOn)
      refine .once skips ?_
      rw [List.length_cons]
      omega

theorem passes_of_escape {text rest : List Char} {meant : Char}
    (read : escape text = .ok (meant, rest)) : Passes text rest := by
  unfold escape at read
  split at read
  · cases read
  · exact passes_of_unicodeEscape read
  · next c tail notUnicode =>
    split at read
    · next short found =>
      obtain ⟨-, rfl⟩ := Prod.mk.inj (Except.ok.inj read)
      refine .once ?_ (Nat.lt_succ_self _)
      rw [skipEscape, found]
      · rfl
      · exact notUnicode
    · cases read

theorem skipWithin_of_readWithin {rounds text inside rest : List Char}
    (read : readWithin rounds text = .ok (inside, rest)) {others : List Char}
    (enough : text.length ≤ others.length) : skipWithin others text = .ok rest := by
  induction rounds generalizing text inside others with
  | nil => cases text <;> cases read
  | cons mark rounds ih =>
    match text, others with
    | [], _ => cases read
    | c :: tail, [] => cases enough
    | c :: tail, other :: others =>
      have enoughRest : tail.length ≤ others.length := Nat.le_of_succ_le_succ enough
      rw [readWithin] at read
      rw [skipWithin]
      by_cases quote : c = '"'
      · rw [if_pos quote] at read ⊢
        cases read
        rfl
      rw [if_neg quote] at read ⊢
      by_cases backslash : c = '\\'
      · rw [if_pos backslash] at read ⊢
        obtain ⟨⟨meant, behind⟩, escaped, goesOn⟩ := ok_of_bind read
        obtain ⟨⟨more, after⟩, later, same⟩ := ok_of_bind goesOn
        cases same
        cases passes_of_escape escaped with
        | once skips shorter =>
          rw [skips]
          exact ih later (by omega)
        | twice skips skipsSecond shorter =>
          rw [skips]
          -- The second half of the pair takes a round of its own.
          obtain ⟨second, others, rfl⟩ := List.exists_cons_of_length_pos
            (show 0 < others.length by omega)
          rw [List.length_cons] at enoughRest
          have halves : skipWithin (second :: others) ('\\' :: 'u' :: _) = skipWithin others behind :=
            congrArg (· >>= skipWithin others) skipsSecond
          exact halves.trans (ih later (by omega))
      rw [if_neg backslash] at read ⊢
      by_cases control : c.toNat < 32
      · rw [if_pos control] at read
        cases read
      · rw [if_neg control] at read ⊢
        obtain ⟨⟨more, after⟩, later, same⟩ := ok_of_bind read
        cases same
        exact ih later enoughRest

theorem skip_of_read {text : List Char} {found : String × List Char} (ok : read text = .ok found) :
    skip text = .ok found.2 := by
  obtain ⟨⟨inside, rest⟩, within, same⟩ := ok_of_bind ok
  cases same
  exact skipWithin_of_readWithin within (Nat.le_refl _)

end Quoted

/-- What can be read can be passed over. -/
def Leaf.Sound {α : Type} (leaf : Leaf α) : Prop := ∀ value, leaf.read = .ok value → leaf.skip = .ok ()

theorem Leaf.Sound.eq {α : Type} {leaf : Leaf α} (sound : leaf.Sound) {value : α}
    (read : leaf.read = .ok value) : leaf = ⟨.ok value, .ok ()⟩ := by
  have skip := sound value read
  cases leaf
  cases read
  cases skip
  rfl

namespace Draft

mutual

def Sound : Draft → Prop
  | .num leaf => leaf.Sound
  | .str leaf => leaf.Sound
  | .list items _ => SoundItems items
  | .object pairs _ => SoundPairs pairs
  | _ => True

def SoundItems : List Draft → Prop
  | [] => True
  | item :: rest => item.Sound ∧ SoundItems rest

def SoundPairs : List (Leaf String × Draft) → Prop
  | [] => True
  | (key, value) :: rest => key.Sound ∧ value.Sound ∧ SoundPairs rest

end

theorem sound_number (text : List Char) : (number text).1.Sound := by
  unfold number
  split
  · exact fun _ _ => rfl
  · exact fun value read => nomatch read

theorem sound_quoted (text : List Char) : (quoted text).1.Sound := by
  intro value read
  have same : (quoted text).1.read = (Quoted.read text).map (·.1) := by
    unfold quoted
    split <;> rfl
  rw [same] at read
  cases found : Quoted.read text with
  | error cause => simp [found, Except.map] at read
  | ok result => simp [quoted, Quoted.skip_of_read found]

theorem sound_word {isNull : Bool} {meant : Draft} (sound : meant.Sound) (letters text : List Char) :
    (word isNull meant letters text).1.Sound := by
  induction letters generalizing text with
  | nil => exact sound
  | cons letter letters ih =>
    cases text with
    | nil => trivial
    | cons c rest =>
      rw [word]
      split
      · exact ih rest
      · trivial

mutual

theorem sound_value : (fuel : Nat) → (text : List Char) → (value fuel text).1.Sound
  | 0, _ => trivial
  | fuel + 1, text => by
    unfold value
    split
    · trivial
    · exact sound_quoted _
    · split
      · trivial
      · trivial
      · exact sound_items fuel _
    · split
      · trivial
      · trivial
      · exact sound_pairs fuel _
      · trivial
    · exact sound_word (show Sound .null from trivial) _ _
    · exact sound_word (show Sound (.bool true) from trivial) _ _
    · exact sound_word (show Sound (.bool false) from trivial) _ _
    · trivial
    · split
      · exact sound_number _
      · trivial

theorem sound_items : (fuel : Nat) → (text : List Char) → SoundItems (items fuel text).1
  | 0, _ => trivial
  | fuel + 1, text => by
    have first := sound_value fuel text
    unfold items
    split
    · next item same => exact ⟨by rw [same] at first; exact first, trivial⟩
    · next item rest same =>
      rw [same] at first
      split
      · exact ⟨first, trivial⟩
      · exact ⟨first, sound_items fuel _⟩

theorem sound_pairs : (fuel : Nat) → (text : List Char) → SoundPairs (pairs fuel text).1
  | 0, _ => trivial
  | fuel + 1, text => by
    have key := sound_quoted text
    unfold pairs
    dsimp only
    split
    · next leaf same =>
      rw [same] at key
      exact ⟨key, trivial, trivial⟩
    · next leaf rest same =>
      rw [same] at key
      split
      · exact ⟨key, trivial, trivial⟩
      · next behind _ =>
        have first := sound_value fuel behind
        split
        · next item equal =>
          rw [equal] at first
          exact ⟨key, first, trivial⟩
        · next item after equal =>
          rw [equal] at first
          split
          · exact ⟨key, first, trivial⟩
          · exact ⟨key, first, sound_pairs fuel _⟩
      · exact ⟨key, trivial, trivial⟩

end

theorem closed_of_next {tail : Tail} {done : Unit} (next : tail.next = .ok done) : tail = .closed := by
  cases tail with
  | closed => rfl
  | cut => cases next

mutual

/-- A draft whose tree can be had is the draft of that tree. -/
theorem eq_ofJson : (draft : Draft) → draft.Sound → {room : Nat} → {tree : Json} →
    draft.toJson room = .ok tree → draft = ofJson tree
  | .null, _, _, _, ok => by cases ok; rfl
  | .bool _, _, _, _, ok => by cases ok; rfl
  | .num leaf, sound, _, _, ok => by
    rw [toJson] at ok
    cases same : leaf.read with
    | error cause => simp [same, Except.map] at ok
    | ok value =>
      simp only [same, Except.map] at ok
      cases ok
      rw [ofJson, Leaf.Sound.eq sound same]
  | .str leaf, sound, _, _, ok => by
    rw [toJson] at ok
    cases same : leaf.read with
    | error cause => simp [same, Except.map] at ok
    | ok value =>
      simp only [same, Except.map] at ok
      cases ok
      rw [ofJson, Leaf.Sound.eq sound same]
  | .list items tail, sound, 0, _, ok => by cases ok
  | .list items tail, sound, room + 1, _, ok => by
    obtain ⟨trees, read, closes⟩ := ok_of_bind ok
    obtain ⟨done, next, same⟩ := ok_of_bind closes
    cases same
    rw [ofJson, closed_of_next next, ← eq_ofItems items sound read]
  | .object pairs tail, sound, 0, _, ok => by cases ok
  | .object pairs tail, sound, room + 1, _, ok => by
    obtain ⟨fields, read, closes⟩ := ok_of_bind ok
    obtain ⟨done, next, same⟩ := ok_of_bind closes
    cases same
    rw [ofJson, closed_of_next next, ← eq_ofFields pairs sound read]
  | .cut _, _, _, _, ok => by cases ok

theorem eq_ofItems : (items : List Draft) → SoundItems items → {room : Nat} → {trees : List Json} →
    itemsToJson room items = .ok trees → items = ofItems trees
  | [], _, _, _, ok => by cases ok; rfl
  | item :: rest, sound, _, _, ok => by
    obtain ⟨tree, first, others⟩ := ok_of_bind ok
    obtain ⟨trees, later, same⟩ := ok_of_bind others
    cases same
    rw [ofItems, ← eq_ofJson item sound.1 first, ← eq_ofItems rest sound.2 later]

theorem eq_ofFields : (pairs : List (Leaf String × Draft)) → SoundPairs pairs → {room : Nat} →
    {fields : List (String × Json)} → pairsToJson room pairs = .ok fields → pairs = ofFields fields
  | [], _, _, _, ok => by cases ok; rfl
  | (key, value) :: rest, sound, _, _, ok => by
    obtain ⟨text, read, others⟩ := ok_of_bind ok
    obtain ⟨tree, first, members⟩ := ok_of_bind others
    obtain ⟨fields, later, same⟩ := ok_of_bind members
    cases same
    rw [ofFields, ← eq_ofJson value sound.2.1 first, ← eq_ofFields rest sound.2.2 later,
      Leaf.Sound.eq sound.1 read]

end

end Draft

/-- A text that writes a tree has the draft of the tree and only blanks behind it, and the tree is not
too deep to be read. -/
theorem ofText_ok {text : String} {tree : Json} (parsed : ofText text = .ok tree) :
    ∃ rest, Draft.ofText text = (.ofJson tree, rest) ∧ (dropBlanks (rest.getD [])).isEmpty ∧
      tree.depth ≤ deepest := by
  cases drafted : Draft.ofText text with
  | mk draft rest =>
    have sound := Draft.sound_value (2 * text.length + 2) text.toList
    rw [← Draft.ofText, drafted] at sound
    simp only [ofText, drafted] at parsed
    split at parsed
    · cases parsed
    · next json read =>
      split at parsed
      · next blank =>
        cases parsed
        obtain rfl := Draft.eq_ofJson draft sound read
        refine ⟨rest, rfl, blank, ?_⟩
        rw [Draft.toJson_ofJson] at read
        split at read
        · next fits => exact fits
        · cases read
      · cases parsed

/-- Printed text writes the tree it was printed from. -/
theorem ofText_toText {tree : Json} (exactly : tree.isExact) (fits : tree.depth ≤ deepest) :
    ofText tree.toText = .ok tree := by
  rw [ofText, Draft.ofText_toText tree exactly]
  simp only [Draft.toJson_ofJson, if_pos fits]
  rfl

/-- Such a text is read as its tree is. -/
theorem readText_of_ofText {α : Type} {text : String} {tree : Json}
    (parsed : ofText text = .ok tree) (read : Cursor → Reading α) :
    readText read text = read (Cursor.ofJson 0 tree) := by
  obtain ⟨rest, drafted, blank, -⟩ := ofText_ok parsed
  rw [readText, drafted]
  simp only [blank, if_true, bind_pure]
  rfl

/-- The value a text writes shows its tree. -/
theorem shows_of_ofText {text : String} {tree : Json} (parsed : ofText text = .ok tree) :
    Cursor.rendering.Shows (Cursor.ofJson 0 tree) tree := by
  obtain ⟨rest, -, -, fits⟩ := ofText_ok parsed
  exact ⟨0, rfl, Reading.allows_some.2 (by omega)⟩

end KvTables.Json
