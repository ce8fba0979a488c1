import KvTables.Json.FromText
import KvTables.Proofs.Json.Draft
import KvTables.Proofs.Reading.Rendering

/-! Unbroken JSON text renders the tree it writes, down to a bounded depth. -/

set_option autoImplicit false

namespace KvTables.Json

namespace Draft

mutual

/-- The draft of a tree is the tree again, unless there is no room for it. -/
theorem toJson_ofJson : (json : Json) → (room : Nat) →
    (ofJson json).toJson room = if json.depth ≤ room then .ok json else .error .tooDeep
  | .null, _ => rfl
  | .bool _, _ => rfl
  | .num _, _ => rfl
  | .str _, _ => rfl
  | .arr items, 0 => rfl
  | .arr items, room + 1 => by
    have read := itemsToJson_ofItems items room
    simp only [ofJson, toJson, read, depth, Nat.add_le_add_iff_right]
    by_cases fits : depthItems items ≤ room
    · simp only [if_pos fits]
      rfl
    · simp only [if_neg fits]
      rfl
  | .obj fields, 0 => rfl
  | .obj fields, room + 1 => by
    have read := pairsToJson_ofFields fields room
    simp only [ofJson, toJson, read, depth, Nat.add_le_add_iff_right]
    by_cases fits : depthFields fields ≤ room
    · simp only [if_pos fits]
      rfl
    · simp only [if_neg fits]
      rfl

theorem itemsToJson_ofItems : (items : List Json) → (room : Nat) →
    itemsToJson room (ofItems items) =
      if depthItems items ≤ room then .ok items else .error .tooDeep
  | [], _ => rfl
  | item :: rest, room => by
    have first := toJson_ofJson item room
    have others := itemsToJson_ofItems rest room
    simp only [ofItems, itemsToJson, first, others, depthItems, Nat.max_le]
    by_cases shallow : item.depth ≤ room
    · by_cases fits : depthItems rest ≤ room
      · simp only [shallow, fits, and_self, if_true]
        rfl
      · simp only [shallow, fits, and_false, if_true, if_false]
        rfl
    · simp only [shallow, false_and, if_false]
      rfl

theorem pairsToJson_ofFields : (fields : List (String × Json)) → (room : Nat) →
    pairsToJson room (ofFields fields) =
      if depthFields fields ≤ room then .ok fields else .error .tooDeep
  | [], _ => rfl
  | (key, value) :: rest, room => by
    have first := toJson_ofJson value room
    have others := pairsToJson_ofFields rest room
    simp only [ofFields, pairsToJson, first, others, depthFields, Nat.max_le]
    by_cases shallow : value.depth ≤ room
    · by_cases fits : depthFields rest ≤ room
      · simp only [shallow, fits, and_self, if_true]
        rfl
      · simp only [shallow, fits, and_false, if_true, if_false]
        rfl
    · simp only [shallow, false_and, if_false]
      rfl

end

theorem ofItems_eq_map (items : List Json) : ofItems items = items.map ofJson := by
  induction items with
  | nil => rfl
  | cons item rest ih => simp [ofItems, ih]

theorem ofFields_eq_map (fields : List (String × Json)) :
    ofFields fields = fields.map fun field => (⟨.ok field.1, .ok ()⟩, ofJson field.2) := by
  induction fields with
  | nil => rfl
  | cons field rest ih => obtain ⟨key, value⟩ := field; simp [ofFields, ih]

end Draft

namespace Cursor

def ofJson (level : Nat) (json : Json) : Cursor := ⟨.ofJson json, deepest - level⟩

theorem enter_map {α β : Type} (cursor : Cursor) (f : α → β) (next : Nat → α) :
    (cursor.enter fun room => f (next room)) = f <$> cursor.enter next := by
  cases room : cursor.room <;> simp only [enter, room] <;> rfl

theorem enter_ofJson {α : Type} (level : Nat) (json : Json) (next : Nat → α) :
    (ofJson level json).enter next =
      Reading.upTo (some deepest) (level + 1) (next (deepest - (level + 1))) := by
  by_cases fits : level + 1 ≤ deepest
  · have room : (ofJson level json).room = (deepest - (level + 1)) + 1 := by
      simp only [ofJson]
      omega
    rw [Reading.upTo_of_allows (Reading.allows_some.2 fits), enter, room]
  · -- The subtraction is cut off at zero, which is where the reader refuses.
    have room : (ofJson level json).room = 0 := by
      simp only [ofJson]
      omega
    rw [Reading.upTo, if_neg (mt Reading.allows_some.1 fits), enter, room]

theorem json_ofJson (level : Nat) (tree : Json) (allowed : Reading.allows (some deepest) level) :
    (ofJson level tree).json = Reading.upTo (some deepest) (level + tree.depth) tree := by
  have room : tree.depth ≤ deepest - level ↔ level + tree.depth ≤ deepest := by
    have within := Reading.allows_some.1 allowed
    omega
  rw [json, ofJson, Draft.toJson_ofJson, Reading.upTo]
  by_cases fits : level + tree.depth ≤ deepest
  · rw [if_pos (room.2 fits), if_pos (Reading.allows_some.2 fits), Reading.ofExcept_ok]
  · rw [if_neg (mt room.1 fits), if_neg (mt Reading.allows_some.1 fits), Reading.ofExcept_error]

def rendering : Rendering Cursor where
  deepest := some deepest
  render := ofJson
  place _ _ _ := rfl
  text _ _ _ := rfl
  name _ _ _ := rfl
  flag _ _ := rfl
  count _ _ := rfl
  optional_null _ := rfl
  optional_some _ json given := by cases json <;> first | rfl | exact absurd rfl given
  items level items _ := by
    refine ⟨itemsOf (Draft.ofItems items) .closed (deepest - (level + 1)), ?_, rfl, ?_⟩
    · simp only [itemsOf, Draft.ofItems_eq_map, List.map_map]
      rfl
    · exact enter_ofJson level (.arr items) _
  entries level fields _ := by
    have pairs : entriesOf (Draft.ofFields fields) .closed (deepest - (level + 1)) =
        ⟨pairsOf (ofJson (level + 1)) fields, pure ()⟩ := by
      simp only [entriesOf, Draft.ofFields_eq_map, List.map_map]
      rfl
    rw [← pairs]
    exact enter_ofJson level (.obj fields) _
  record level fields _ := enter_map (ofJson level (.obj fields)) Parts.entries _
  tagged level fields _ := enter_map (ofJson level (.obj fields)) Parts.entries _
  choice_text _ _ _ := rfl
  choice_payload level key value := by
    refine ⟨variant (Draft.ofFields [(key, value)]) .closed (deepest - (level + 1)), rfl, rfl, rfl,
      fun visit => ?_⟩
    exact congrArg (· >>= visit) (enter_ofJson level (.obj [(key, value)]) _)
  json := json_ofJson
  buffer level tree _ allowed := by
    change Buffer.ofJson <$> (ofJson level tree).json = _
    rw [json_ofJson level tree allowed, map_eq_pure_bind]
    exact Reading.upTo_bind_pure tree Buffer.ofJson

end Cursor

end KvTables.Json
