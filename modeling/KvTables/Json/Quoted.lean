import KvTables.Reading.Fault

/-! Text between quotes in JSON.

A quoted text can be read or passed over. Passing over it checks the same spelling, but does not ask
whether escaped surrogates pair up.
-/

set_option autoImplicit false

namespace KvTables.Json.Quoted

def hexValue? (c : Char) : Option Nat :=
  if c.isDigit then some (c.toNat - '0'.toNat)
  else if 'a' ≤ c ∧ c ≤ 'f' then some (c.toNat - 'a'.toNat + 10)
  else if 'A' ≤ c ∧ c ≤ 'F' then some (c.toNat - 'A'.toNat + 10)
  else none

def utf8Length (text : List Char) : Nat := text.foldl (fun size c => size + c.utf8Size) 0

/-- The unit of sixteen bits that four hexadecimal digits write. A text of less than four bytes
counts as ended. -/
def hexUnit : List Char → Except SyntaxError (Nat × List Char)
  | a :: b :: c :: d :: rest =>
    match hexValue? a, hexValue? b, hexValue? c, hexValue? d with
    | some a, some b, some c, some d => .ok (((a * 16 + b) * 16 + c) * 16 + d, rest)
    | _, _, _, _ => .error .badEscape
  | text => .error (if 4 ≤ utf8Length text then .badEscape else .endInString)

def isLeading (unit : Nat) : Bool := 0xD800 ≤ unit && unit < 0xDC00

def isTrailing (unit : Nat) : Bool := 0xDC00 ≤ unit && unit < 0xE000

def trailingUnit : List Char → Except SyntaxError (Nat × List Char)
  | [] => .error .endInString
  | '\\' :: [] => .error .endInString
  | '\\' :: 'u' :: rest => do
    let (unit, rest) ← hexUnit rest
    if isTrailing unit then .ok (unit, rest) else .error .loneSurrogate
  | _ => .error .endOfHexEscape

def unicodeEscape (text : List Char) : Except SyntaxError (Char × List Char) := do
  let (unit, rest) ← hexUnit text
  if isTrailing unit then .error .loneSurrogate
  else if isLeading unit then
    let (second, rest) ← trailingUnit rest
    return (Char.ofNat ((unit - 0xD800) * 0x400 + (second - 0xDC00) + 0x10000), rest)
  else return (Char.ofNat unit, rest)

def shortEscape? (c : Char) : Option Char :=
  match c with
  | '"' => some '"'
  | '\\' => some '\\'
  | '/' => some '/'
  | 'b' => some '\x08'
  | 'f' => some '\x0c'
  | 'n' => some '\n'
  | 'r' => some '\r'
  | 't' => some '\t'
  | _ => none

def escape : List Char → Except SyntaxError (Char × List Char)
  | [] => .error .endInString
  | 'u' :: rest => unicodeEscape rest
  | c :: rest =>
    match shortEscape? c with
    | some meant => .ok (meant, rest)
    | none => .error .badEscape

def skipEscape : List Char → Except SyntaxError (List Char)
  | [] => .error .endInString
  | 'u' :: rest => do return (← hexUnit rest).2
  | c :: rest => if (shortEscape? c).isSome then .ok rest else .error .badEscape

/-- The characters up to the closing quote, and what follows it. There are as many rounds as `rounds`
has characters. -/
def readWithin : (rounds : List Char) → List Char → Except SyntaxError (List Char × List Char)
  | [], _ | _, [] => .error .endInString
  | _ :: rounds, c :: rest =>
    if c = '"' then .ok ([], rest)
    else if c = '\\' then do
      let (meant, rest) ← escape rest
      let (more, after) ← readWithin rounds rest
      return (meant :: more, after)
    else if c.toNat < 32 then .error .controlCharacter
    else do
      let (more, after) ← readWithin rounds rest
      return (c :: more, after)

def skipWithin : (rounds : List Char) → List Char → Except SyntaxError (List Char)
  | [], _ | _, [] => .error .endInString
  | _ :: rounds, c :: rest =>
    if c = '"' then .ok rest
    else if c = '\\' then do skipWithin rounds (← skipEscape rest)
    else if c.toNat < 32 then .error .controlCharacter
    else skipWithin rounds rest

def read (text : List Char) : Except SyntaxError (String × List Char) := do
  let (inside, rest) ← readWithin text text
  return (String.ofList inside, rest)

def skip (text : List Char) : Except SyntaxError (List Char) := skipWithin text text

end KvTables.Json.Quoted
