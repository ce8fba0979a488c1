import KvTables.Json.FromValue
import KvTables.Proofs.Reading.Rendering
import KvTables.Reading.FromBuffer

/-! JSON values and values kept aside render any tree.

Neither bounds how deep a tree nests. A tree kept aside can be had back unchanged.
-/

set_option autoImplicit false

namespace KvTables

namespace Json

def rendering : Rendering Json where
  deepest := none
  render _ json := json
  place _ _ _ := rfl
  text _ _ _ := rfl
  name _ _ _ := rfl
  flag _ _ := rfl
  count _ _ := rfl
  optional_null _ := rfl
  optional_some _ json given := by cases json <;> first | rfl | exact absurd rfl given
  items _ items _ := ⟨itemsOf items, (List.map_id items).symm, rfl, rfl⟩
  entries _ _ _ := rfl
  record _ _ _ := rfl
  tagged _ _ _ := rfl
  choice_text _ _ _ := rfl
  choice_payload _ key value := ⟨⟨pure (.text key), value.unit, pure value, pure ()⟩, rfl, rfl, rfl,
    fun _ => rfl⟩
  json _ _ _ := rfl
  buffer _ _ _ _ := rfl

end Json

namespace Buffer

theorem ofItems_eq_map (items : List Json) : ofItems items = items.map ofJson := by
  induction items with
  | nil => rfl
  | cons item rest ih => simp [ofItems, ih]

theorem ofFields_eq_map (fields : List (String × Json)) :
    ofFields fields = fields.map fun field => (.text field.1, ofJson field.2) := by
  induction fields with
  | nil => rfl
  | cons field rest ih => obtain ⟨key, value⟩ := field; simp [ofFields, ih]

mutual

theorem toJson_ofJson : (json : Json) → (ofJson json).toJson = .ok json
  | .null => rfl
  | .bool _ => rfl
  | .num _ => rfl
  | .str _ => rfl
  | .arr items => by simp [ofJson, toJson, itemsToJson_ofItems items, bind, Except.bind]; rfl
  | .obj fields => by simp [ofJson, toJson, pairsToJson_ofFields, bind, Except.bind]; rfl

theorem itemsToJson_ofItems : (items : List Json) → itemsToJson (ofItems items) = .ok items
  | [] => rfl
  | item :: rest => by
    simp [ofItems, itemsToJson, toJson_ofJson item, itemsToJson_ofItems rest, bind, Except.bind]
    rfl

theorem pairsToJson_ofFields :
    (fields : List (String × Json)) → (expected : String) →
      pairsToJson expected (ofFields fields) = .ok fields
  | [], _ => rfl
  | (key, value) :: rest, expected => by
    simp [ofFields, pairsToJson, toJson_ofJson value, pairsToJson_ofFields rest, bind, Except.bind]
    rfl

end

def rendering : Rendering Buffer where
  deepest := none
  render _ json := ofJson json
  place _ _ _ := rfl
  text _ _ _ := rfl
  name _ _ _ := rfl
  flag _ _ := rfl
  count _ _ := rfl
  optional_null _ := rfl
  optional_some _ json given := by cases json <;> first | rfl | exact absurd rfl given
  items _ items _ := ⟨itemsOf (ofItems items), ofItems_eq_map items, rfl, rfl⟩
  entries _ fields expected := by
    change pure (entriesOf (ofFields fields)) = _
    rw [ofFields_eq_map]
    rfl
  record _ _ _ := rfl
  tagged _ _ _ := rfl
  choice_text _ _ _ := rfl
  choice_payload _ key value :=
    ⟨⟨pure (.text key), (ofJson value).unit, pure (ofJson value), pure ()⟩, rfl, rfl, rfl,
      fun _ => rfl⟩
  json _ tree _ := by
    change (match (ofJson tree).toJson with
      | .ok json => pure json
      | .error cause => Reading.mismatch cause) = _
    rw [toJson_ofJson]
    rfl
  buffer _ _ _ _ := rfl

end Buffer

end KvTables
