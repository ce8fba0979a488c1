import KvTables.Proofs.Reading.Showing
import KvTables.Proofs.Yaml.Decimal

/-! YAML nodes that write a JSON tree show that tree.

Keys and texts are quoted, all other scalars plain, and nothing has a tag or a name. Doubles are left
out, and the tree must not nest deeper than there is room for.
-/

set_option autoImplicit false

namespace KvTables

namespace Json

theorem isExactItems_iff {items : List Json} :
    isExactItems items ↔ ∀ item ∈ items, item.isExact := by
  induction items with
  | nil => simp [isExactItems]
  | cons item rest ih => simp [isExactItems, ih]

theorem isExactFields_iff {fields : List (String × Json)} :
    isExactFields fields ↔ ∀ field ∈ fields, field.2.isExact := by
  induction fields with
  | nil => simp [isExactFields]
  | cons field rest ih => obtain ⟨key, value⟩ := field; simp [isExactFields, ih]

end Json

namespace Yaml

open Reading (Leads)

namespace Node

mutual

def ofJson : Json → Node
  | .null => .scalar .plain none "null" none
  | .bool value => .scalar .plain none (if value then "true" else "false") none
  | .num value => .scalar .plain none (String.ofList value.print) none
  | .str text => .scalar .quoted none text none
  | .arr items => .sequence none (ofItems items) none
  | .obj fields => .mapping none (ofFields fields) none

def ofItems : List Json → List Node
  | [] => []
  | item :: rest => ofJson item :: ofItems rest

def ofFields : List (String × Json) → List (Node × Node)
  | [] => []
  | (key, value) :: rest => (.scalar .quoted none key none, ofJson value) :: ofFields rest

end

theorem ofFields_eq_map (fields : List (String × Json)) :
    ofFields fields = fields.map fun field => (.scalar .quoted none field.1 none, ofJson field.2) := by
  induction fields with
  | nil => rfl
  | cons field rest ih => obtain ⟨key, value⟩ := field; simp [ofFields, ih]

mutual

theorem skip_ofJson : (json : Json) → (ofJson json).skip = .ok ()
  | .null => rfl
  | .bool _ => rfl
  | .num _ => rfl
  | .str _ => rfl
  | .arr items => by rw [ofJson, skip, skipItems_ofItems items]
  | .obj fields => by rw [ofJson, skip, skipPairs_ofFields fields]

theorem skipItems_ofItems : (items : List Json) → skipItems (ofItems items) = .ok ()
  | [] => rfl
  | item :: rest => by
    rw [ofItems, skipItems, skip_ofJson item]
    exact skipItems_ofItems rest

theorem skipPairs_ofFields : (fields : List (String × Json)) → skipPairs (ofFields fields) = .ok ()
  | [] => rfl
  | (_, value) :: rest => by
    rw [ofFields, skipPairs, skip_ofJson value]
    exact skipPairs_ofFields rest

end

theorem found_ofJson_num {number : Json.Number} (exactly : (Json.num number).isExact) :
    Core.found .plain none (String.ofList number.print) = .ok number.found := by
  cases number with
  | float value => cases exactly
  | int value fits => exact congrArg Except.ok (Core.plain_print value fits)

end Node

namespace Cursor

variable {α : Type}

/-- A tree at some place of some document, with room for all of it. -/
inductive Shows : Cursor → Json → Prop where
  | intro (document : Document) {json : Json} (path : Path) {room : Nat} (exactly : json.isExact)
    (fits : json.depth ≤ room) : Shows ⟨document, .ofJson json, path, room, false⟩ json

theorem shows_key (document : Document) (path : Path) (room : Nat) (key : String) :
    Shows ⟨document, .ofJson (.str key), path, room, false⟩ (.str key) :=
  .intro document path rfl (Nat.zero_le _)

theorem place_pure (cursor : Cursor) (value : α) : cursor.place (pure value) = pure value := rfl

/-- What stands inside a list has one less container to open. -/
theorem elements_shown (cursor : Cursor) {room : Nat} {items : List Json}
    (exactly : ∀ item ∈ items, item.isExact) (fits : ∀ item ∈ items, item.depth ≤ room)
    (index : Nat) :
    List.Forall₂ Shows (cursor.elements room index (Node.ofItems items)) items := by
  induction items generalizing index with
  | nil => exact .nil
  | cons item rest ih =>
    refine .cons (.intro _ _ (exactly item List.mem_cons_self) (fits item List.mem_cons_self)) ?_
    exact ih (fun other member => exactly other (List.mem_cons_of_mem _ member))
      (fun other member => fits other (List.mem_cons_of_mem _ member)) _

def keyAt (cursor : Cursor) (room : Nat) (key : String) : Cursor :=
  cursor.within room cursor.path (.scalar .quoted none key none)

def valueAt (cursor : Cursor) (room : Nat) (key : String) (value : Json) : Cursor :=
  cursor.within room (.key cursor.path key) (.ofJson value)

theorem pairs_ofFields (cursor : Cursor) (room : Nat) (fields : List (String × Json)) :
    cursor.pairs room (Node.ofFields fields) =
      fields.map fun field => (cursor.keyAt room field.1, cursor.valueAt room field.1 field.2) := by
  rw [Node.ofFields_eq_map, pairs, List.map_map]
  rfl

theorem valueAt_shown (cursor : Cursor) {room : Nat} {field : String × Json}
    (exactly : field.2.isExact) (fits : field.2.depth ≤ room) :
    Shows (cursor.valueAt room field.1 field.2) field.2 := .intro _ _ exactly fits

theorem text_keyAt (cursor : Cursor) (room : Nat) (key expected : String) :
    (cursor.keyAt room key).text expected = pure key := rfl

theorem jsonFields_ofFields {read : Cursor → Reading Json} (cursor : Cursor) (room : Nat)
    (fields : List (String × Json))
    (reads : ∀ field ∈ fields, read (cursor.valueAt room field.1 field.2) = pure field.2)
    (expected : String) :
    jsonFields read expected (cursor.pairs room (Node.ofFields fields)) = pure fields := by
  rw [pairs_ofFields]
  induction fields generalizing expected with
  | nil => rfl
  | cons field rest ih =>
    rw [List.map_cons, jsonFields, text_keyAt, pure_bind, reads field List.mem_cons_self, pure_bind,
      ih (fun other member => reads other (List.mem_cons_of_mem _ member)), pure_bind]

theorem each_shown (make : Json → α) {read : Cursor → Reading α} {elements : List Cursor}
    {items : List Json} (shown : List.Forall₂ Shows elements items)
    (reads : ∀ element, ∀ item ∈ items, Shows element item → read element = pure (make item)) :
    Reading.each read elements = pure (items.map make) := by
  induction shown with
  | nil => rfl
  | cons first _ ih =>
    rw [Reading.each, reads _ _ List.mem_cons_self first, pure_bind,
      ih (fun element item member => reads element item (List.mem_cons_of_mem _ member)), pure_bind,
      List.map_cons]

theorem bufferPairs_ofFields {read : Cursor → Reading Buffer} (cursor : Cursor) (room : Nat)
    (keys : ∀ key, read (cursor.keyAt room key) = pure (.text key)) (fields : List (String × Json))
    (reads : ∀ field ∈ fields,
      read (cursor.valueAt room field.1 field.2) = pure (.ofJson field.2)) :
    bufferPairs read (cursor.pairs room (Node.ofFields fields)) = pure (Buffer.ofFields fields) := by
  rw [pairs_ofFields]
  induction fields with
  | nil => rfl
  | cons field rest ih =>
    rw [List.map_cons, bufferPairs, keys, pure_bind, reads field List.mem_cons_self, pure_bind,
      ih (fun other member => reads other (List.mem_cons_of_mem _ member)), pure_bind]
    rfl

theorem dispatch_scalar (document : Document) {style : Style} {text : String} {found : Found}
    (means : Core.found style none text = .ok found) (path : Path) (room : Nat)
    (variant : Reading α) (scalar : Found → Reading α) (items : List Cursor → Reading α)
    (pairs : List (Cursor × Cursor) → Reading α) :
    (Cursor.mk document (.scalar style none text none) path room false).dispatch variant scalar items
      pairs = scalar found := by
  simp only [dispatch, variant?, Node.tag, Option.bind_none, Bool.false_eq_true, if_false,
    Option.isSome_none, means]

theorem exists_succ {needed room : Nat} (fits : needed + 1 ≤ room) :
    ∃ inner, room = inner + 1 ∧ needed ≤ inner :=
  ⟨room - 1, by omega, by omega⟩

theorem ofInt?_of_fits {value : Int} (fits : Json.FitsWord value) :
    Json.Number.ofInt? value = some (.int value fits) := dif_pos fits

theorem json_shown {depth : Nat} {cursor : Cursor} {json : Json} (shown : Shows cursor json)
    (deep : json.depth ≤ depth) : cursor.json depth = pure json := by
  induction depth using Nat.strongRecOn generalizing cursor json with
  | ind depth ih =>
    obtain ⟨document, path, exactly, roomy⟩ := shown
    unfold Cursor.json
    cases json with
    | null => rfl
    | bool value => cases value <;> rfl
    | num number =>
      change place _ (dispatch _ _ scalarToJson _ _) = _
      rw [Node.ofJson, dispatch_scalar document (Node.found_ofJson_num exactly)]
      cases number with
      | float value => cases exactly
      | int value fits =>
        rw [Json.Number.found, scalarToJson, ofInt?_of_fits fits]
        rfl
    | str text => rfl
    | arr items =>
      obtain ⟨inner, rfl, inside⟩ := exists_succ roomy
      obtain ⟨less, rfl, below⟩ := exists_succ deep
      have exactItems := Json.isExactItems_iff.1 exactly
      have elements := elements_shown ⟨document, .ofJson (.arr items), path, inner + 1, false⟩
        exactItems (fun item member => Nat.le_trans (Json.depth_le_of_mem_items member) inside) 0
      change place _ (Json.arr <$> Reading.each (Cursor.json less) _) = _
      rw [each_shown id elements fun element item member shown => ih less (Nat.lt_succ_self _) shown
        (Nat.le_trans (Json.depth_le_of_mem_items member) below), List.map_id]
      rfl
    | obj fields =>
      obtain ⟨inner, rfl, inside⟩ := exists_succ roomy
      obtain ⟨less, rfl, below⟩ := exists_succ deep
      have exactFields := Json.isExactFields_iff.1 exactly
      change place _ (Json.obj <$> jsonFields (Cursor.json less) "a string key" _) = _
      rw [jsonFields_ofFields _ _ fields fun field member => ih less (Nat.lt_succ_self _)
        (valueAt_shown _ (exactFields field member)
          (Nat.le_trans (Json.depth_le_of_mem_fields member) inside))
        (Nat.le_trans (Json.depth_le_of_mem_fields member) below)]
      rfl

theorem buffer_shown {depth : Nat} {cursor : Cursor} {json : Json} (shown : Shows cursor json)
    (deep : json.depth ≤ depth) (expected : String) :
    cursor.buffer depth expected = pure (.ofJson json) := by
  induction depth using Nat.strongRecOn generalizing cursor json expected with
  | ind depth ih =>
    obtain ⟨document, path, exactly, roomy⟩ := shown
    unfold Cursor.buffer
    cases json with
    | null => rfl
    | bool value => cases value <;> rfl
    | num number =>
      change place _ (dispatch _ _ (scalarToBuffer expected) _ _) = _
      rw [Node.ofJson, dispatch_scalar document (Node.found_ofJson_num exactly)]
      cases number with
      | float value => cases exactly
      | int value fits =>
        rw [Json.Number.found, scalarToBuffer, ofInt?_of_fits fits]
        rfl
    | str text => rfl
    | arr items =>
      obtain ⟨inner, rfl, inside⟩ := exists_succ roomy
      obtain ⟨less, rfl, below⟩ := exists_succ deep
      have exactItems := Json.isExactItems_iff.1 exactly
      have elements := elements_shown ⟨document, .ofJson (.arr items), path, inner + 1, false⟩
        exactItems (fun item member => Nat.le_trans (Json.depth_le_of_mem_items member) inside) 0
      change place _ (Buffer.list <$> Reading.each (Cursor.buffer less "any value") _) = _
      rw [each_shown Buffer.ofJson elements fun element item member shown =>
        ih less (Nat.lt_succ_self _) shown (Nat.le_trans (Json.depth_le_of_mem_items member) below)
          "any value", ← Buffer.ofItems_eq_map]
      rfl
    | obj fields =>
      obtain ⟨inner, rfl, inside⟩ := exists_succ roomy
      obtain ⟨less, rfl, below⟩ := exists_succ deep
      have exactFields := Json.isExactFields_iff.1 exactly
      have keys : ∀ key, Cursor.buffer less "any value"
          ((Cursor.mk document (.ofJson (.obj fields)) path (inner + 1) false).keyAt inner key) =
            pure (.text key) := fun key => ih less (Nat.lt_succ_self _)
        (shows_key document path inner key) (Nat.zero_le _) _
      change place _ (Buffer.mapping <$> bufferPairs (Cursor.buffer less "any value") _) = _
      rw [bufferPairs_ofFields _ _ keys fields fun field member => ih less (Nat.lt_succ_self _)
        (valueAt_shown _ (exactFields field member)
          (Nat.le_trans (Json.depth_le_of_mem_fields member) inside))
        (Nat.le_trans (Json.depth_le_of_mem_fields member) below) _]
      rfl

theorem isAbsent_ofJson_num {number : Json.Number} (exactly : (Json.num number).isExact) :
    Core.isAbsent .plain none (String.ofList number.print) = .ok false := by
  cases number with
  | float value => cases exactly
  | int value fits =>
    have some := Core.print_ne_empty value fits
    simp [Core.isAbsent, some, Core.isNull_print]

theorem count_ofJson (document : Document) (path : Path) (room : Nat) {number : Json.Number}
    (exactly : (Json.num number).isExact) :
    number.count.Leads True Eq
      (Cursor.count ⟨document, .ofJson (.num number), path, room, false⟩) := by
  cases number with
  | float value => cases exactly
  | int value fits =>
    rw [Json.Number.count]
    by_cases negative : value < 0
    · rw [if_pos negative]
      exact .of_fails (Reading.fails_mismatch _)
    · have isPlain : Core.readsAs .int .plain none = true := rfl
      have read : Cursor.count ⟨document, .ofJson (.num (.int value fits)), path, room, false⟩ =
          pure (UInt64.ofNat value.toNat) := by
        have found := Core.count?_print value fits negative
        simp only [count, resolve, Node.ofJson, pure_bind, isPlain, if_true, found, place_pure]
      rw [if_neg negative, read]
      exact .pure rfl

theorem spells_keyAt (cursor : Cursor) (room : Nat) (key : String) :
    Spells (cursor.keyAt room key) key where
  name _ := rfl
  text _ := rfl
  buffer expected := buffer_shown (shows_key cursor.document cursor.path room key) (Nat.zero_le _)
    expected

theorem showing : Showing Shows where
  place {cursor _} _ := ⟨Fault.placed cursor.path.shown, fun _ => rfl⟩
  text := by
    rintro _ content ⟨document, path, -, -⟩ expected
    rfl
  name := by
    rintro _ content ⟨document, path, -, -⟩ expected
    rfl
  flag := by
    rintro _ flag ⟨document, path, -, -⟩
    cases flag <;> rfl
  count := by
    rintro _ number ⟨document, path, exactly, -⟩
    exact count_ofJson document path _ exactly
  optional_null := by
    rintro _ ⟨document, path, -, -⟩
    rfl
  optional_some := by
    rintro _ json ⟨document, path, exactly, -⟩ given
    cases json with
    | null => exact absurd rfl given
    | bool value => cases value <;> rfl
    | num number =>
      simp only [Source.optional, Cursor.optional, resolve, Node.ofJson, pure_bind,
        isAbsent_ofJson_num exactly]
      rfl
    | _ => rfl
  items := by
    rintro _ items ⟨document, path, exactly, roomy⟩ expected
    obtain ⟨inner, rfl, inside⟩ := exists_succ roomy
    refine ⟨_, rfl, rfl, elements_shown _ (Json.isExactItems_iff.1 exactly) (fun item member => ?_) 0⟩
    exact Nat.le_trans (Json.depth_le_of_mem_items member) inside
  entries := by
    rintro _ fields ⟨document, path, exactly, roomy⟩
    obtain ⟨inner, rfl, inside⟩ := exists_succ roomy
    let cursor : Cursor := ⟨document, .ofJson (.obj fields), path, inner + 1, false⟩
    refine ⟨cursor.keyAt inner, cursor.valueAt inner, fun expected => ?_, spells_keyAt cursor inner,
      fun field member => valueAt_shown cursor (Json.isExactFields_iff.1 exactly field member)
        (Nat.le_trans (Json.depth_le_of_mem_fields member) inside)⟩
    rw [← pairs_ofFields]
    rfl
  record := by
    rintro _ fields ⟨document, path, -, -⟩ expected
    rfl
  tagged := by
    rintro _ fields ⟨document, path, -, roomy⟩ expected
    obtain ⟨inner, rfl, -⟩ := exists_succ roomy
    rfl
  skip := by
    rintro _ json ⟨document, path, -, -⟩
    change Reading.ofExcept (Node.ofJson json).skip = pure ()
    rw [Node.skip_ofJson, Reading.ofExcept_ok]
  json := by
    rintro cursor json shown
    obtain ⟨document, path, exactly, roomy⟩ := shown
    exact json_shown (.intro document path exactly roomy) roomy
  buffer := by
    rintro cursor json shown expected
    obtain ⟨document, path, exactly, roomy⟩ := shown
    exact buffer_shown (.intro document path exactly roomy) roomy expected

end Cursor

end Yaml

end KvTables
