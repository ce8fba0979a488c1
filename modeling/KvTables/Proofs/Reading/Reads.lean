import KvTables.Proofs.Reading.Rendering
import KvTables.Reading.Record
import KvTables.Reading.Variants
import Mathlib.Data.List.Forall2

/-! Readings that recover a value from its tree, whatever source the tree is rendered in.

The statements compose as the readings do. A tree that nests too deep for the source is refused, so
that no reading settles for a part of it.
-/

set_option autoImplicit false

namespace KvTables

variable {α β ν : Type} [Source ν]

namespace Rendering

/-- A reading recovers the value from the tree, as long as the tree does not nest too deep. -/
def Reads (rendering : Rendering ν) (read : ν → Reading α) (json : Json) (value : α) : Prop :=
  ∀ level, Reading.allows rendering.deepest level →
    read (rendering.render level json) =
      Reading.upTo rendering.deepest (level + json.depth) value

variable {rendering : Rendering ν}

namespace Reads

theorem text (content expected : String) :
    rendering.Reads (Source.text expected) (.str content) content := by
  intro level allowed
  rw [rendering.text]
  exact (Reading.upTo_of_allows allowed content).symm

theorem flag (value : Bool) : rendering.Reads Source.flag (.bool value) value := by
  intro level allowed
  rw [rendering.flag]
  exact (Reading.upTo_of_allows allowed value).symm

theorem count (value : UInt64) :
    rendering.Reads Source.count (.num (.ofCount value)) value := by
  intro level allowed
  have natural : ¬((value.toNat : Int) < 0) := by omega
  rw [rendering.count]
  simp only [Json.Number.ofCount, Json.Number.count, if_neg natural, Int.toNat_natCast,
    UInt64.ofNat_toNat]
  exact (Reading.upTo_of_allows allowed value).symm

theorem json (tree : Json) : rendering.Reads Source.json tree tree :=
  fun level allowed => rendering.json level tree allowed

theorem map {read : ν → Reading α} {tree : Json} {value : α}
    (reads : rendering.Reads read tree value) (f : α → β) :
    rendering.Reads (fun source => do return f (← read source)) tree (f value) := by
  intro level allowed
  simp only [reads level allowed]
  exact Reading.upTo_bind_pure value f

theorem optional {read : ν → Reading α} {tree : Json} {value : α}
    (reads : rendering.Reads read tree value) (given : tree ≠ .null) :
    rendering.Reads (Reading.optional read) tree (some value) := by
  intro level allowed
  rw [Reading.optional, rendering.optional_some level given, pure_bind]
  simp only [map_eq_pure_bind, reads level allowed]
  exact Reading.upTo_bind_pure value some

/-- An optional value is written only if it is there. -/
theorem optionalField {read : ν → Reading α} {write : α → Json} {arrange : Json → Json}
    {value : Option α} {tree : Json} (written : value.map write = some tree)
    (reads : ∀ value, rendering.Reads read (arrange (write value)) value)
    (given : ∀ value, arrange (write value) ≠ .null) :
    rendering.Reads (Reading.optional read) (arrange tree) value := by
  obtain ⟨inner, rfl, rfl⟩ := Option.map_eq_some_iff.1 written
  exact optional (reads inner) (given inner)

theorem optionalText (arrangement : Json.Arrangement) (expected : String) {value : Option String}
    {tree : Json} (written : value.map .str = some tree) :
    rendering.Reads (Reading.optional (Source.text expected)) (arrangement.apply tree) value :=
  optionalField written
    (fun content => by rw [arrangement.apply_str]; exact text content expected)
    (fun content => by rw [arrangement.apply_str]; exact Json.noConfusion)

theorem pick {variants : List (String × α)} {name : String} {variant : α}
    (found : variants.lookup name = some variant) :
    Reading.pick variants (.text name) = pure variant := by
  simp only [Reading.pick, found]

theorem bare {variants : List (String × α)} {name : String} {variant : α}
    (found : variants.lookup name = some variant) :
    rendering.Reads (Reading.bare variants) (.str name) variant := by
  intro level allowed
  rw [Reading.bare, rendering.choice_text]
  simp only [Choice.ofText, pure_bind, pick found]
  exact (Reading.upTo_of_allows allowed variant).symm

theorem withPayload {variants : List (String × (ν → Reading α))} {name : String}
    {readPayload : ν → Reading α} {payload : Json} {value : α}
    (found : variants.lookup name = some readPayload)
    (reads : rendering.Reads readPayload payload value) :
    rendering.Reads (Reading.withPayload variants) (.obj [(name, payload)]) value := by
  intro level allowed
  obtain ⟨choice, named, carried, closed, visited⟩ := rendering.choice_payload level name payload
  rw [Reading.withPayload, visited, Json.add_depth_obj, Json.depthFields, Json.depthFields,
    Nat.max_zero]
  -- The payload is read inside the object, with one more container open.
  refine Reading.upTo_bind (Nat.le_add_right _ _) fun enough => ?_
  simp only [named, carried, closed, pure_bind, pick found, reads _ enough, bind_pure]

theorem each {read : ν → Reading α} {trees : List Json} {values : List α}
    (reads : List.Forall₂ (rendering.Reads read) trees values) {level : Nat}
    (allowed : Reading.allows rendering.deepest level) :
    Reading.each read (trees.map (rendering.render level)) =
      Reading.upTo rendering.deepest (level + Json.depthItems trees) values := by
  induction reads with
  | nil => exact (Reading.upTo_of_allows allowed []).symm
  | @cons tree value trees values first _ ih =>
    rw [Json.depthItems, ← Nat.add_max_add_left]
    simp only [List.map_cons, Reading.each, first level allowed]
    refine Reading.upTo_then ?_
    rw [ih]
    exact Reading.upTo_bind_pure values (value :: ·)

theorem list {read : ν → Reading α} {trees : List Json} {values : List α}
    (reads : List.Forall₂ (rendering.Reads read) trees values) :
    rendering.Reads (Reading.list read) (.arr trees) values := by
  intro level _
  obtain ⟨listed, elements, past, asked⟩ := rendering.items level trees "a sequence"
  rw [Reading.list, rendering.place, asked, Json.add_depth_arr]
  refine Reading.upTo_bind (Nat.le_add_right _ _) fun enough => ?_
  simp only [elements, past, each reads enough, pure_bind, bind_pure]

theorem pairs (fields : List (String × Json)) {level : Nat}
    (allowed : Reading.allows rendering.deepest level) :
    Reading.pairs (rendering.pairs level fields) =
      Reading.upTo rendering.deepest (level + Json.depthFields fields) fields := by
  induction fields with
  | nil => exact (Reading.upTo_of_allows allowed []).symm
  | cons field rest ih =>
    obtain ⟨key, value⟩ := field
    rw [Json.depthFields, ← Nat.add_max_add_left]
    simp only [rendering.pairs_cons, Reading.pairs, rendering.text, pure_bind,
      json value level allowed]
    refine Reading.upTo_then ?_
    rw [ih]
    exact Reading.upTo_bind_pure rest ((key, value) :: ·)

/-- A mapping is read in canonical form. -/
theorem object (object : Json.Object) :
    rendering.Reads Reading.object object.toJson object := by
  intro level _
  rw [Reading.object, Json.Object.toJson, rendering.place, rendering.entries_eq, Json.add_depth_obj]
  refine Reading.upTo_bind (Nat.le_add_right _ _) fun enough => ?_
  rw [pairs object.fields enough]
  refine Reading.upTo_bind (Nat.le_refl _) fun most => ?_
  rw [pure_bind, object.ofFields_fields, Reading.upTo_of_allows most]

end Reads

end Rendering

end KvTables
