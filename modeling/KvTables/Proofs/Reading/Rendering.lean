import KvTables.Proofs.Json.Arrangement
import KvTables.Reading.Source

/-! What a source answers about a JSON tree.

A rendering turns trees into values of a source, in such a way that every question is answered as
the tree says. Sources that bound how deep values nest refuse exactly the trees that go too deep.
-/

set_option autoImplicit false

namespace KvTables

namespace Json

mutual

def depth : Json → Nat
  | .null => 0
  | .bool _ => 0
  | .num _ => 0
  | .str _ => 0
  | .arr items => depthItems items + 1
  | .obj fields => depthFields fields + 1

def depthItems : List Json → Nat
  | [] => 0
  | item :: rest => max item.depth (depthItems rest)

def depthFields : List (String × Json) → Nat
  | [] => 0
  | (_, value) :: rest => max value.depth (depthFields rest)

end

theorem add_depth_arr (level : Nat) (items : List Json) :
    level + (arr items).depth = level + 1 + depthItems items := by
  simp only [depth]
  omega

theorem add_depth_obj (level : Nat) (fields : List (String × Json)) :
    level + (obj fields).depth = level + 1 + depthFields fields := by
  simp only [depth]
  omega

end Json

namespace Reading

variable {α β : Type}

def allows : (deepest : Option Nat) → Nat → Bool
  | none, _ => true
  | some deepest, needed => decide (needed ≤ deepest)

/-- A value that can be had only with so many containers open. -/
def upTo (deepest : Option Nat) (needed : Nat) (value : α) : Reading α :=
  if allows deepest needed then pure value else broken .tooDeep

theorem allows_some {deepest needed : Nat} : allows (some deepest) needed ↔ needed ≤ deepest :=
  decide_eq_true_iff

theorem allows_mono {deepest : Option Nat} {few many : Nat} (le : few ≤ many)
    (allowed : allows deepest many) : allows deepest few := by
  cases deepest with
  | none => rfl
  | some deepest => exact decide_eq_true (Nat.le_trans le (of_decide_eq_true allowed))

theorem upTo_of_allows {deepest : Option Nat} {needed : Nat} (allowed : allows deepest needed)
    (value : α) : upTo deepest needed value = pure value := if_pos allowed

/-- Going on after a value that asks for less than the whole does. -/
theorem upTo_bind {deepest : Option Nat} {needed whole : Nat} (le : needed ≤ whole) {value : α}
    {result : β} {next : α → Reading β}
    (goesOn : allows deepest needed → next value = upTo deepest whole result) :
    (upTo deepest needed value >>= next) = upTo deepest whole result := by
  by_cases allowed : allows deepest needed
  · rw [upTo_of_allows allowed, pure_bind, goesOn allowed]
  · have beyond : ¬allows deepest whole := fun more => allowed (allows_mono le more)
    simp [upTo, allowed, beyond]

theorem upTo_bind_pure {deepest : Option Nat} {needed : Nat} (value : α) (f : α → β) :
    (upTo deepest needed value >>= fun value => pure (f value)) = upTo deepest needed (f value) :=
  upTo_bind (Nat.le_refl _) fun enough => (upTo_of_allows enough (f value)).symm

theorem upTo_max {deepest : Option Nat} {first second : Nat} (allowed : allows deepest first)
    (value : α) : upTo deepest (max first second) value = upTo deepest second value := by
  have same : allows deepest (max first second) = allows deepest second := by
    rcases Nat.le_total first second with le | le
    · rw [Nat.max_eq_right le]
    · rw [Nat.max_eq_left le, allowed, allows_mono le allowed]
  simp only [upTo, same]

/-- Two values one after the other need as much as the more demanding of them. -/
theorem upTo_then {deepest : Option Nat} {first second : Nat} {value : α} {result : β}
    {next : α → Reading β} (goesOn : next value = upTo deepest second result) :
    (upTo deepest first value >>= next) = upTo deepest (max first second) result :=
  upTo_bind (Nat.le_max_left first second) fun allowed => by rw [goesOn, upTo_max allowed]

end Reading

def pairsOf {ν : Type} (render : Json → ν) (fields : List (String × Json)) : List (ν × ν) :=
  fields.map fun field => (render (.str field.1), render field.2)

/-- Trees as values of a source. `render level` is the tree inside `level` open containers. -/
structure Rendering (ν : Type) [Source ν] where
  deepest : Option Nat
  render : Nat → Json → ν
  place {α : Type} (level : Nat) (json : Json) (reading : Reading α) :
    Source.place (render level json) reading = reading
  text (level : Nat) (text expected : String) :
    Source.text expected (render level (.str text)) = pure text
  name (level : Nat) (text expected : String) :
    Source.name expected (render level (.str text)) = pure (.text text)
  flag (level : Nat) (value : Bool) : Source.flag (render level (.bool value)) = pure value
  count (level : Nat) (value : Json.Number) :
    Source.count (render level (.num value)) = value.count
  optional_null (level : Nat) : Source.optional (render level .null) = pure none
  optional_some (level : Nat) {json : Json} (given : json ≠ .null) :
    Source.optional (render level json) = pure (some (render level json))
  items (level : Nat) (items : List Json) (expected : String) : ∃ listed : Items ν,
    listed.elements = items.map (render (level + 1)) ∧ listed.past = pure () ∧
    Source.items expected (render level (.arr items)) = Reading.upTo deepest (level + 1) listed
  entries (level : Nat) (fields : List (String × Json)) (expected : String) :
    Source.entries expected (render level (.obj fields)) =
      Reading.upTo deepest (level + 1) ⟨pairsOf (render (level + 1)) fields, pure ()⟩
  record (level : Nat) (fields : List (String × Json)) (expected : String) :
    Source.record expected (render level (.obj fields)) =
      Parts.entries <$> Source.entries expected (render level (.obj fields))
  tagged (level : Nat) (fields : List (String × Json)) (expected : String) :
    Source.tagged expected (render level (.obj fields)) =
      Parts.entries <$> Source.entries expected (render level (.obj fields))
  choice_text {α : Type} (level : Nat) (text : String) (visit : Choice ν → Reading α) :
    Source.choice (render level (.str text)) visit = visit (Choice.ofText (pure (.text text)))
  choice_payload (level : Nat) (key : String) (value : Json) : ∃ choice : Choice ν,
    choice.name = pure (.text key) ∧ choice.payload = pure (render (level + 1) value) ∧
    choice.close = pure () ∧
    ∀ {α : Type} (visit : Choice ν → Reading α),
      Source.choice (render level (.obj [(key, value)])) visit =
        Reading.upTo deepest (level + 1) choice >>= visit
  json (level : Nat) (tree : Json) (allowed : Reading.allows deepest level) :
    Source.json (render level tree) = Reading.upTo deepest (level + tree.depth) tree
  buffer (level : Nat) (tree : Json) (expected : String) (allowed : Reading.allows deepest level) :
    Source.buffer expected (render level tree) =
      Reading.upTo deepest (level + tree.depth) (Buffer.ofJson tree)

namespace Rendering

variable {ν : Type} [Source ν] (rendering : Rendering ν)

def pairs (level : Nat) (fields : List (String × Json)) : List (ν × ν) :=
  pairsOf (rendering.render level) fields

@[simp] theorem pairs_cons (level : Nat) (key : String) (value : Json)
    (rest : List (String × Json)) :
    rendering.pairs level ((key, value) :: rest) =
      (rendering.render level (.str key), rendering.render level value) ::
        rendering.pairs level rest := rfl

theorem entries_eq (level : Nat) (fields : List (String × Json)) (expected : String) :
    Source.entries expected (rendering.render level (.obj fields)) =
      Reading.upTo rendering.deepest (level + 1) ⟨rendering.pairs (level + 1) fields, pure ()⟩ :=
  rendering.entries level fields expected

end Rendering

end KvTables
