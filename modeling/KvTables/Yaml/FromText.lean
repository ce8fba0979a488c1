import KvTables.Reading.Variants
import KvTables.Yaml.Core
import KvTables.Yaml.Node

/-! Reading from YAML text.

Mismatches carry the path of the innermost value they arise at. Containers may be open 128 deep, and
a document may follow a hundred aliases for each of its events; passing over a value has no limit.
-/

set_option autoImplicit false

namespace KvTables.Yaml

inductive Path where
  | root
  | item (parent : Path) (index : Nat)
  | key (parent : Path) (name : String)
  /-- What an alias stands for. -/
  | alias (parent : Path)
  | unknown (parent : Path)
  deriving Repr

namespace Path

def write : Path → String
  | .root => "."
  | .item parent index => parent.write ++ "[" ++ toString index ++ "]"
  | .key .root name => name
  | .key parent name => parent.write ++ "." ++ name
  | .alias parent => parent.write
  | .unknown .root => "?"
  | .unknown parent => parent.write ++ ".?"

/-- The path as messages give it; what is written as the root is left out. -/
def shown (path : Path) : Option String :=
  let written := path.write
  if written = Path.root.write then none else some written

end Path

structure Cursor where
  document : Document
  node : Node
  path : Path
  room : Nat
  /-- Whether the node is the payload of the variant that its tag names. -/
  isPayload : Bool

namespace Node

mutual

/-- Pass over a node; its aliases are not followed. -/
def skip : Node → Except SyntaxError Unit
  | .scalar _ _ _ _ => .ok ()
  | .alias _ => .ok ()
  | .sequence _ items _ => skipItems items
  | .mapping _ pairs _ => skipPairs pairs
  | .nothing => .ok ()
  | .missing => .error .noDocument

def skipItems : List Node → Except SyntaxError Unit
  | [] => .ok ()
  | item :: rest => do
    item.skip
    skipItems rest

def skipPairs : List (Node × Node) → Except SyntaxError Unit
  | [] => .ok ()
  | (key, value) :: rest => do
    key.skip
    value.skip
    skipPairs rest

end

def tag : Node → Option Tag
  | .scalar _ tag _ _ | .sequence tag _ _ | .mapping tag _ _ => tag
  | _ => none

def isEmpty : Node → Bool
  | .scalar .plain _ "" _ => true
  | .nothing => true
  | _ => false

end Node

def Document.target (document : Document) (number : Nat) : Node :=
  ((document.targets.filter (·.1 == number)).getLast?.map (·.2)).getD .missing

def Document.aliasLimit (document : Document) : Nat := 100 * document.events

namespace Cursor

variable {α : Type}

def place (cursor : Cursor) (reading : Reading α) : Reading α :=
  reading.onFault (Fault.placed cursor.path.shown)

def resolve (cursor : Cursor) : Reading Cursor :=
  match cursor.node with
  | .alias number => do
    Reading.follow cursor.document.aliasLimit
    pure { cursor with
      node := cursor.document.target number
      path := .alias cursor.path
      isPayload := false }
  | _ => pure cursor

/-- Refuse a node for what it is, tags of variants aside. -/
def unexpected (cursor : Cursor) (expected : String) : Reading α :=
  match cursor.node with
  | .scalar style tag text _ =>
    match Core.found style tag text with
    | .ok found => Reading.mismatch (.wrongType found expected)
    | .error cause => Reading.mismatch cause
  | .sequence _ _ _ => Reading.mismatch (.wrongType .list expected)
  | .mapping _ _ _ => Reading.mismatch (.wrongType .mapping expected)
  | .nothing => Reading.broken .endInValue
  | .alias _ | .missing => Reading.broken .noDocument

def enter (cursor : Cursor) (next : Nat → α) : Reading α :=
  match cursor.room with
  | 0 => Reading.broken .tooDeep
  | room + 1 => pure (next room)

def within (cursor : Cursor) (room : Nat) (path : Path) (node : Node) : Cursor :=
  ⟨cursor.document, node, path, room, false⟩

def elements (cursor : Cursor) (room : Nat) : (index : Nat) → List Node → List Cursor
  | _, [] => []
  | index, item :: rest =>
    cursor.within room (.item cursor.path index) item :: elements cursor room (index + 1) rest

/-- Keys stand at the path of their mapping, and values below a key that is a scalar. -/
def pairs (cursor : Cursor) (room : Nat) (pairs : List (Node × Node)) : List (Cursor × Cursor) :=
  pairs.map fun (key, value) =>
    let path := match key with
      | .scalar _ _ text _ => Path.key cursor.path text
      | _ => Path.unknown cursor.path
    (cursor.within room cursor.path key, cursor.within room path value)

def itemsOf (elements : List Cursor) : Items Cursor where
  elements := elements
  past := pure ()
  surplus _ := pure ()

def entriesOf (pairs : List (Cursor × Cursor)) : Entries Cursor where
  pairs := pairs
  past := pure ()

def items (expected : String) (cursor : Cursor) : Reading (Items Cursor) := do
  let cursor ← cursor.resolve
  cursor.place (match cursor.node with
    | .sequence _ items _ => cursor.enter fun room => itemsOf (cursor.elements room 0 items)
    | node => if node.isEmpty then pure (itemsOf []) else cursor.unexpected expected)

def entries (expected : String) (cursor : Cursor) : Reading (Entries Cursor) := do
  let cursor ← cursor.resolve
  cursor.place (match cursor.node with
    | .mapping _ pairs _ => cursor.enter fun room => entriesOf (cursor.pairs room pairs)
    | node => if node.isEmpty then pure (entriesOf []) else cursor.unexpected expected)

def text (expected : String) (cursor : Cursor) : Reading String := do
  let cursor ← cursor.resolve
  cursor.place (match cursor.node with
    | .scalar _ _ text _ => pure text
    | _ => cursor.unexpected expected)

def flag (cursor : Cursor) : Reading Bool := do
  let cursor ← cursor.resolve
  cursor.place (match cursor.node with
    | .scalar style tag text _ =>
      match if Core.readsAs .bool style tag then Core.bool? text else none with
      | some value => pure value
      | none => cursor.unexpected "a boolean"
    | _ => cursor.unexpected "a boolean")

def count? (text : String) : Option UInt64 :=
  match text.toList with
  | '-' :: _ => none
  | text =>
    match Core.int? text with
    | some value => if 0 ≤ value ∧ value < 18446744073709551616 then some (UInt64.ofNat value.toNat) else none
    | none => none

def count (cursor : Cursor) : Reading UInt64 := do
  let cursor ← cursor.resolve
  cursor.place (match cursor.node with
    | .scalar style tag text _ =>
      match if Core.readsAs .int style tag then count? text else none with
      | some value => pure value
      | none => cursor.unexpected "u64"
    | _ => cursor.unexpected "u64")

def optional (cursor : Cursor) : Reading (Option Cursor) := do
  let cursor ← cursor.resolve
  match cursor.node with
  | .scalar style tag text _ =>
    match Core.isAbsent style tag text with
    | .ok absent => pure (if absent then none else some cursor)
    | .error cause => Reading.mismatch cause
  | .nothing => pure none
  | .missing => Reading.broken .noDocument
  | _ => pure (some cursor)

/-- The variant that the tag of a node names, unless the node is its payload. -/
def variant? (cursor : Cursor) : Option String :=
  if cursor.isPayload then none else cursor.node.tag.bind Tag.variant?

/-- Find out what a node is: a variant, a container, or a scalar of some type. -/
def dispatch (cursor : Cursor) (variant : Reading α) (scalar : Found → Reading α)
    (items : List Cursor → Reading α) (pairs : List (Cursor × Cursor) → Reading α) : Reading α :=
  if cursor.variant?.isSome then variant
  else
    match cursor.node with
    | .scalar style tag text _ =>
      match Core.found style (if cursor.isPayload then none else tag) text with
      | .ok found => scalar found
      | .error cause => Reading.mismatch cause
    | .sequence _ nodes _ => do
      items (← cursor.enter fun room => cursor.elements room 0 nodes)
    | .mapping _ nodes _ => do
      pairs (← cursor.enter fun room => cursor.pairs room nodes)
    | .nothing => scalar .absent
    | .alias _ | .missing => Reading.broken .noDocument

def parts (expected : String) (cursor : Cursor) : Reading (Parts Cursor) := do
  let cursor ← cursor.resolve
  cursor.place (cursor.dispatch
    (Reading.mismatch (.wrongType .variant expected))
    (fun found => Reading.mismatch (.wrongType found expected))
    (fun elements => pure (.items (itemsOf elements)))
    (fun pairs => pure (.entries (entriesOf pairs))))

def unit (cursor : Cursor) : Reading Unit := do
  let cursor ← cursor.resolve
  cursor.place (match cursor.node with
    | .scalar style _ text _ =>
      if style = .plain && (text = "" || Core.isNull text) then pure ()
      else Reading.mismatch (.wrongValue (.text text) "null")
    | .nothing => pure ()
    | _ => cursor.unexpected "unit")

/-- A variant is named by a tag, which its payload follows, or by a scalar on its own. A mismatch in
the payload is placed only where an alias stands for the whole. -/
def choice (cursor : Cursor) (visit : Choice Cursor → Reading α) : Reading α := do
  let target ← cursor.resolve
  let payload := { target with isPayload := true }
  let reading := match target.node.tag.bind Tag.variant? with
    | some name => visit {
        name := pure (.text name)
        bare := payload.unit
        payload := pure payload
        close := pure () }
    | none =>
      target.place (match target.node with
        | .scalar _ _ text _ => visit (Choice.ofText (pure (.text text)))
        | .sequence _ _ _ | .mapping _ _ _ => target.unexpected "a YAML tag starting with '!'"
        | .nothing => Reading.broken .endInValue
        | .alias _ | .missing => Reading.broken .noDocument)
  match cursor.node with
  | .alias _ => cursor.place reading
  | _ => reading

def scalarToJson : Found → Reading Json
  | .bool value => pure (.bool value)
  | .int value =>
    match Json.Number.ofInt? value with
    | some number => pure (.num number)
    | none => Reading.mismatch (.refused "JSON number out of range")
  | .minusZero => pure (.num (.ofCount 0))
  | .wideInt _ => Reading.mismatch (.refused "JSON number out of range")
  | .float value => pure (.num (.float value))
  | .text value => pure (.str value)
  | _ => pure .null

def jsonFields (json : Cursor → Reading Json) (expected : String) :
    List (Cursor × Cursor) → Reading (List (String × Json))
  | [] => pure []
  | (key, value) :: rest => do
    let key ← key.text expected
    let value ← json value
    return (key, value) :: (← jsonFields json "a string" rest)

def json : (depth : Nat) → Cursor → Reading Json
  | depth, cursor => do
    let cursor ← cursor.resolve
    cursor.place (cursor.dispatch
      (Reading.mismatch (.wrongType .variant "any valid JSON value"))
      scalarToJson
      (fun elements => match depth with
        | 0 => Reading.broken .tooDeep
        | depth + 1 => .arr <$> Reading.each (json depth) elements)
      (fun pairs => match depth with
        | 0 => Reading.broken .tooDeep
        | depth + 1 => .obj <$> jsonFields (json depth) "a string key" pairs))

def scalarToBuffer (expected : String) : Found → Reading Buffer
  | .bool value => pure (.bool value)
  | .int value =>
    match Json.Number.ofInt? value with
    | some number => pure (.num number)
    | none => Reading.mismatch (.wrongType (.int value) expected)
  | .minusZero => pure .minusZero
  | .wideInt value => Reading.mismatch (.wrongType (.wideInt value) expected)
  | .float value => pure (.num (.float value))
  | .nonFinite value => pure (.nonFinite value)
  | .text value => pure (.text value)
  | _ => pure .null

def bufferPairs (buffer : Cursor → Reading Buffer) :
    List (Cursor × Cursor) → Reading (List (Buffer × Buffer))
  | [] => pure []
  | (key, value) :: rest => do
    let key ← buffer key
    let value ← buffer value
    return (key, value) :: (← bufferPairs buffer rest)

/-- A node kept aside, `depth` bounding the containers below it. -/
def buffer : (depth : Nat) → (expected : String) → Cursor → Reading Buffer
  | depth, expected, cursor => do
    let cursor ← cursor.resolve
    cursor.place (cursor.dispatch
      (Reading.mismatch
        (.refused "untagged and internally tagged enums do not support enum input"))
      (scalarToBuffer expected)
      (fun elements => match depth with
        | 0 => Reading.broken .tooDeep
        | depth + 1 => .list <$> Reading.each (buffer depth "any value") elements)
      (fun pairs => match depth with
        | 0 => Reading.broken .tooDeep
        | depth + 1 => .mapping <$> bufferPairs (buffer depth "any value") pairs))

instance : Source Cursor where
  place := place
  text := text
  name expected cursor := Name.text <$> cursor.text expected
  flag := flag
  count := count
  optional := optional
  items := items
  entries := entries
  record expected cursor := .entries <$> cursor.entries expected
  tagged := parts
  choice := choice
  skip cursor := Reading.ofExcept cursor.node.skip
  json cursor := cursor.json cursor.room
  buffer expected cursor := cursor.buffer cursor.room expected

end Cursor

def deepest : Nat := 128

variable {α : Type}

def readText (read : Cursor → Reading α) (text : String) : Reading α := do
  let document := Document.ofText text
  -- Files named before the place where a text breaks have been loaded all the same.
  match ← Reading.attempt (read ⟨document, document.root, .root, deepest, false⟩) with
  | .ok value => if document.sound then pure value else Reading.broken .noDocument
  | .error fault => Reading.fail (if document.sound then fault else .broken .noDocument)

end KvTables.Yaml
