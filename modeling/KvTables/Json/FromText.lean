import KvTables.Json.Draft

/-! Reading from JSON text.

A value is read at most 127 containers deep; passing over one has no such limit.
-/

set_option autoImplicit false

namespace KvTables.Json

namespace Tail

def next : Tail → Except SyntaxError Unit
  | .closed => .ok ()
  | .cut next _ _ => .error next

def skip : Tail → Except SyntaxError Unit
  | .closed => .ok ()
  | .cut _ skip _ => .error skip

def close : Tail → Except SyntaxError Unit
  | .closed => .ok ()
  | .cut _ _ close => .error close

end Tail

namespace Draft

mutual

def toJson (room : Nat) : Draft → Except SyntaxError Json
  | .null => .ok .null
  | .bool value => .ok (.bool value)
  | .num leaf => leaf.read.map .num
  | .str leaf => leaf.read.map .str
  | .list items tail =>
    match room with
    | 0 => .error .tooDeep
    | room + 1 => do
      let items ← itemsToJson room items
      tail.next
      return .arr items
  | .object pairs tail =>
    match room with
    | 0 => .error .tooDeep
    | room + 1 => do
      let fields ← pairsToJson room pairs
      tail.next
      return .obj fields
  | .cut here => .error here.cause

def itemsToJson (room : Nat) : List Draft → Except SyntaxError (List Json)
  | [] => .ok []
  | item :: rest => do
    let json ← item.toJson room
    return json :: (← itemsToJson room rest)

def pairsToJson (room : Nat) :
    List (Leaf String × Draft) → Except SyntaxError (List (String × Json))
  | [] => .ok []
  | (key, value) :: rest => do
    let text ← key.read
    let json ← value.toJson room
    return (text, json) :: (← pairsToJson room rest)

end

mutual

def skip : Draft → Except SyntaxError Unit
  | .null => .ok ()
  | .bool _ => .ok ()
  | .num leaf => leaf.skip
  | .str leaf => leaf.skip
  | .list items tail => do
    skipItems items
    tail.skip
  | .object pairs tail => do
    skipPairs pairs
    tail.skip
  | .cut here => .error here.cause

def skipItems : List Draft → Except SyntaxError Unit
  | [] => .ok ()
  | item :: rest => do
    item.skip
    skipItems rest

def skipPairs : List (Leaf String × Draft) → Except SyntaxError Unit
  | [] => .ok ()
  | (key, value) :: rest => do
    key.skip
    value.skip
    skipPairs rest

end

end Draft

/-- A draft with the number of containers that may still be opened. -/
structure Cursor where
  draft : Draft
  room : Nat

def deepest : Nat := 127

namespace Cursor

variable {α : Type}

def unexpected (cursor : Cursor) (expected : String) : Reading α :=
  match cursor.draft.found with
  | .ok found => Reading.mismatch (.wrongType found expected)
  | .error cause => Reading.broken cause

def enter (cursor : Cursor) (next : Nat → α) : Reading α :=
  match cursor.room with
  | 0 => Reading.broken .tooDeep
  | room + 1 => pure (next room)

/-- Leaving a list after some elements is possible only at its end. -/
def surplus (items : List Draft) (tail : Tail) (taken : Nat) : Reading Unit :=
  match items.drop taken with
  | [] => Reading.ofExcept tail.close
  | .cut (.comma true) :: _ => Reading.broken (if taken = 0 then .trailingComma else .trailingText)
  | _ => Reading.broken .trailingText

def itemsOf (items : List Draft) (tail : Tail) (room : Nat) : Items Cursor where
  elements := items.map fun draft => ⟨draft, room⟩
  past := Reading.ofExcept tail.next
  surplus := surplus items tail

def entriesOf (pairs : List (Leaf String × Draft)) (tail : Tail) (room : Nat) : Entries Cursor where
  pairs := pairs.map fun pair => (⟨.str pair.1, room⟩, ⟨pair.2, room⟩)
  past := Reading.ofExcept tail.next

def items (expected : String) (cursor : Cursor) : Reading (Items Cursor) :=
  match cursor.draft with
  | .list items tail => cursor.enter (itemsOf items tail)
  | _ => cursor.unexpected expected

def entries (expected : String) (cursor : Cursor) : Reading (Entries Cursor) :=
  match cursor.draft with
  | .object pairs tail => cursor.enter (entriesOf pairs tail)
  | _ => cursor.unexpected expected

def parts (expected : String) (cursor : Cursor) : Reading (Parts Cursor) :=
  match cursor.draft with
  | .list items tail => cursor.enter fun room => .items (itemsOf items tail room)
  | .object pairs tail => cursor.enter fun room => .entries (entriesOf pairs tail room)
  | _ => cursor.unexpected expected

def text (expected : String) (cursor : Cursor) : Reading String :=
  match cursor.draft with
  | .str leaf => Reading.ofExcept leaf.read
  | _ => cursor.unexpected expected

def unit (cursor : Cursor) : Reading Unit :=
  match cursor.draft with
  | .null => pure ()
  | _ => cursor.unexpected "unit"

/-- The variant named by the first key of an object, which has to be the only one. -/
def variant (pairs : List (Leaf String × Draft)) (tail : Tail) (room : Nat) : Choice Cursor :=
  match pairs with
  | [] =>
    let refusal {β : Type} : Reading β := match tail with
      | .closed => Reading.broken .noValue
      | .cut next _ _ => Reading.broken next
    ⟨refusal, refusal, refusal, refusal⟩
  | (key, value) :: rest => {
      name := Name.text <$> Reading.ofExcept key.read
      bare := unit ⟨value, room⟩
      payload := pure ⟨value, room⟩
      close := if rest.isEmpty then Reading.ofExcept tail.close else Reading.broken .noValue }

def choice (cursor : Cursor) : Reading (Choice Cursor) :=
  match cursor.draft with
  | .str leaf => pure (Choice.ofText (Name.text <$> Reading.ofExcept leaf.read))
  | .object pairs tail => cursor.enter (variant pairs tail)
  | .cut (.fault cause) => Reading.broken cause
  | _ => Reading.broken .noValue

def json (cursor : Cursor) : Reading Json := Reading.ofExcept (cursor.draft.toJson cursor.room)

instance : Source Cursor where
  place _ reading := reading
  text := text
  name expected cursor := Name.text <$> cursor.text expected
  flag cursor :=
    match cursor.draft with
    | .bool value => pure value
    | _ => cursor.unexpected "a boolean"
  count cursor :=
    match cursor.draft with
    | .num leaf => do (← Reading.ofExcept leaf.read).count
    | _ => cursor.unexpected "u64"
  optional cursor :=
    match cursor.draft with
    | .null => pure none
    | .cut (.word true cause) => Reading.broken cause
    | _ => pure (some cursor)
  items := items
  entries := entries
  record := parts
  tagged := parts
  choice cursor visit := do visit (← cursor.choice)
  skip cursor := Reading.ofExcept cursor.draft.skip
  json := json
  buffer _ cursor := Buffer.ofJson <$> cursor.json

end Cursor

variable {α : Type}

/-- Read a whole text, which may have blanks around its value and nothing else. -/
def readText (read : Cursor → Reading α) (text : String) : Reading α := do
  let (draft, rest) := Draft.ofText text
  let value ← read ⟨draft, deepest⟩
  if (dropBlanks (rest.getD [])).isEmpty then pure value else Reading.broken .trailingText

def ofText (text : String) : Except SyntaxError Json :=
  let (draft, rest) := Draft.ofText text
  match draft.toJson deepest with
  | .error cause => .error cause
  | .ok json =>
    if (dropBlanks (rest.getD [])).isEmpty then .ok json else .error .trailingText

end KvTables.Json
