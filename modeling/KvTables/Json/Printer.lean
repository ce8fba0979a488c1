import KvTables.Decimal.Layout
import KvTables.Json.Basic

/-! The compact text of a JSON value.

Fields are written in the order the tree has them, without blanks. Text is written as itself apart
from quotes, backslashes and control characters.
-/

set_option autoImplicit false

namespace KvTables.Json

def escaped (c : Char) : List Char :=
  match c with
  | '"' => ['\\', '"']
  | '\\' => ['\\', '\\']
  | '\x08' => ['\\', 'b']
  | '\t' => ['\\', 't']
  | '\n' => ['\\', 'n']
  | '\x0c' => ['\\', 'f']
  | '\r' => ['\\', 'r']
  | c =>
    if c.toNat < 32 then ['\\', 'u', '0', '0', Nat.digitChar (c.toNat / 16), Nat.digitChar (c.toNat % 16)]
    else [c]

def printText (text : String) : List Char := '"' :: text.toList.flatMap escaped ++ ['"']

def Number.print : Number → List Char
  | .int value _ => (toString value).toList
  | .float value => (Decimal.Layout.json.write value).toList

mutual

def print : Json → List Char
  | .null => ['n', 'u', 'l', 'l']
  | .bool true => ['t', 'r', 'u', 'e']
  | .bool false => ['f', 'a', 'l', 's', 'e']
  | .num value => value.print
  | .str text => printText text
  | .arr items => '[' :: printItems [] items ++ [']']
  | .obj fields => '\x7b' :: printFields [] fields ++ ['\x7d']

/-- Items with a comma between them; `lead` stands before the first. -/
def printItems (lead : List Char) : List Json → List Char
  | [] => []
  | item :: rest => lead ++ item.print ++ printItems [','] rest

def printFields (lead : List Char) : List (String × Json) → List Char
  | [] => []
  | (key, value) :: rest =>
    lead ++ printText key ++ ':' :: value.print ++ printFields [','] rest

end

def toText (json : Json) : String := String.ofList json.print

end KvTables.Json
