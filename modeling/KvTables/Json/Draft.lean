import KvTables.Json.Numeral
import KvTables.Json.Quoted
import KvTables.Reading.Source

/-! JSON text as a tree, up to the point where it breaks.

Which fault a broken text is reported with depends on what it is read as: a value that is passed over
is checked less strictly than one that is read, and a list that is left early is not read to its end.
A draft therefore keeps, wherever the text breaks, the fault of each way to go on.
-/

set_option autoImplicit false

namespace KvTables.Json

/-- A number or a text, with the faults of reading it and of passing over it. -/
structure Leaf (α : Type) where
  read : Except SyntaxError α
  skip : Except SyntaxError Unit

inductive Cut where
  | fault (cause : SyntaxError)
  /-- A misspelt `null`, `true` or `false`. -/
  | word (isNull : Bool) (cause : SyntaxError)
  /-- A comma, perhaps with the end of the list behind it. -/
  | comma (thenEnd : Bool)

def Cut.cause : Cut → SyntaxError
  | .fault cause | .word _ cause => cause
  | .comma _ => .noValue

/-- How the members of a list or an object end: closed, or cut off with the faults of asking for the
next member, of passing over it, and of closing here. -/
inductive Tail where
  | closed
  | cut (next skip close : SyntaxError)

inductive Draft where
  | null
  | bool (value : Bool)
  | num (leaf : Leaf Number)
  | str (leaf : Leaf String)
  | list (items : List Draft) (tail : Tail)
  | object (pairs : List (Leaf String × Draft)) (tail : Tail)
  | cut (cut : Cut)

def isBlank (c : Char) : Bool := c = ' ' || c = '\n' || c = '\t' || c = '\r'

def dropBlanks (text : List Char) : List Char := text.dropWhile isBlank

namespace Draft

def found : Draft → Except SyntaxError Found
  | .null => .ok .null
  | .bool value => .ok (.bool value)
  | .num leaf => leaf.read.map Number.found
  | .str leaf => leaf.read.map .text
  | .list _ _ => .ok .list
  | .object _ _ => .ok .mapping
  | .cut here => .error here.cause

def number (text : List Char) : Draft × Option (List Char) :=
  match Numeral.ofText text with
  | .ok (numeral, rest) => (.num ⟨numeral.value, .ok ()⟩, some rest)
  | .error cause => (.num ⟨.error cause, .error .badNumber⟩, none)

def quoted (text : List Char) : Leaf String × Option (List Char) :=
  let read := (Quoted.read text).map (·.1)
  match Quoted.skip text with
  | .ok rest => (⟨read, .ok ()⟩, some rest)
  | .error cause => (⟨read, .error cause⟩, none)

def word (isNull : Bool) (meant : Draft) : (letters : List Char) → List Char →
    Draft × Option (List Char)
  | [], rest => (meant, some rest)
  | _ :: _, [] => (.cut (.word isNull .endInValue), none)
  | letter :: letters, c :: rest =>
    if c = letter then word isNull meant letters rest else (.cut (.word isNull .noIdent), none)

def afterItem (text : List Char) : (Tail × Option (List Char)) ⊕ List Char :=
  match dropBlanks text with
  | [] => .inl (.cut .endInList .endInList .endInList, none)
  | ']' :: rest => .inl (.closed, some rest)
  | ',' :: rest =>
    match dropBlanks rest with
    | [] => .inl (.cut .endInValue .endInValue .trailingText, none)
    | ']' :: _ => .inl (.cut .trailingComma .noValue .trailingComma, none)
    | next => .inr next
  | _ => .inl (.cut .noCommaInList .noCommaInList .trailingText, none)

def afterPair (text : List Char) : (Tail × Option (List Char)) ⊕ List Char :=
  match dropBlanks text with
  | [] => .inl (.cut .endInObject .endInObject .endInObject, none)
  | '\x7d' :: rest => .inl (.closed, some rest)
  | ',' :: rest =>
    match dropBlanks rest with
    | [] => .inl (.cut .endInValue .endInObject .noValue, none)
    | '\x7d' :: _ => .inl (.cut .trailingComma .keyNotString .noValue, none)
    | '"' :: next => .inr next
    | _ => .inl (.cut .keyNotString .keyNotString .noValue, none)
  | _ => .inl (.cut .noCommaInObject .noCommaInObject .noValue, none)

def endsList (text : List Char) : Bool := (dropBlanks text).head? == some ']'

mutual

/-- The draft a text starts with, and the rest unless the text breaks within the draft. -/
def value : (fuel : Nat) → List Char → Draft × Option (List Char)
  | 0, _ => (.cut (.fault .endInValue), none)
  | fuel + 1, text =>
    match dropBlanks text with
    | [] => (.cut (.fault .endInValue), none)
    | '"' :: rest => let (leaf, rest) := quoted rest; (.str leaf, rest)
    | '[' :: rest =>
      match dropBlanks rest with
      | [] => (.list [] (.cut .endInList .endInList .endInList), none)
      | ']' :: after => (.list [] .closed, some after)
      | first =>
        let (items, tail, after) := items fuel first
        (.list items tail, after)
    | '\x7b' :: rest =>
      match dropBlanks rest with
      | [] => (.object [] (.cut .endInObject .endInObject .endInObject), none)
      | '\x7d' :: after => (.object [] .closed, some after)
      | '"' :: first =>
        let (pairs, tail, after) := pairs fuel first
        (.object pairs tail, after)
      | _ => (.object [] (.cut .keyNotString .keyNotString .noValue), none)
    | 'n' :: rest => word true .null ['u', 'l', 'l'] rest
    | 't' :: rest => word false (.bool true) ['r', 'u', 'e'] rest
    | 'f' :: rest => word false (.bool false) ['a', 'l', 's', 'e'] rest
    | ',' :: rest => (.cut (.comma (endsList rest)), none)
    | c :: rest =>
      if c = '-' ∨ c.isDigit then number (c :: rest) else (.cut (.fault .noValue), none)

def items : (fuel : Nat) → List Char → List Draft × Tail × Option (List Char)
  | 0, _ => ([], .cut .endInList .endInList .endInList, none)
  | fuel + 1, text =>
    match value fuel text with
    | (item, none) => ([item], .cut .endInList .endInList .endInList, none)
    | (item, some rest) =>
      match afterItem rest with
      | .inl (tail, after) => ([item], tail, after)
      | .inr next =>
        let (more, tail, after) := items fuel next
        (item :: more, tail, after)

def pairs : (fuel : Nat) → List Char → List (Leaf String × Draft) × Tail × Option (List Char)
  | 0, _ => ([], .cut .endInObject .endInObject .endInObject, none)
  | fuel + 1, text =>
    let unfinished : Tail := .cut .endInObject .endInObject .endInObject
    match quoted text with
    | (key, none) => ([(key, .cut (.fault .endInValue))], unfinished, none)
    | (key, some rest) =>
      match dropBlanks rest with
      | [] => ([(key, .cut (.fault .endInObject))], unfinished, none)
      | ':' :: rest =>
        match value fuel rest with
        | (item, none) => ([(key, item)], unfinished, none)
        | (item, some rest) =>
          match afterPair rest with
          | .inl (tail, after) => ([(key, item)], tail, after)
          | .inr next =>
            let (more, tail, after) := pairs fuel next
            ((key, item) :: more, tail, after)
      | _ => ([(key, .cut (.fault .noColon))], unfinished, none)

end

def ofText (text : String) : Draft × Option (List Char) :=
  value (2 * text.length + 2) text.toList

end Draft

end KvTables.Json
