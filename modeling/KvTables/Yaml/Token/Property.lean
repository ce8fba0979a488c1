import KvTables.Yaml.Token
import KvTables.Yaml.Token.Scalar

/-! Names, tags and directives. -/

set_option autoImplicit false

namespace KvTables.Yaml.Property

def isUriChar (verbatim : Bool) (c : Char) : Bool :=
  isWordChar c || [';', '/', '?', ':', '@', '&', '=', '+', '$', '.', '%', '!', '~', '*', '\'', '(',
    ')'].contains c || (verbatim && [',', '[', ']'].contains c)

def name (place : Place) : Option (String × Place) :=
  let (word, after) := place.span isWordChar
  let closed := after.isSeparated ||
    after.peek.any fun c => ['?', ':', ',', ']', '\x7d', '%', '@', '`'].contains c
  if word.isEmpty || !closed then none else some (String.ofList word, after)

def escapedOctets : (count : Nat) → List Char → Option (List UInt8)
  | 0, _ => some []
  | count + 1, '%' :: a :: b :: rest => do
    let high ← Scalar.hexValue? a
    let low ← Scalar.hexValue? b
    return UInt8.ofNat (16 * high + low) :: (← escapedOctets count rest)
  | _ + 1, _ => none

/-- How many octets a character takes whose first octet is given. -/
def octetCount? (first : UInt8) : Option Nat :=
  if first < 0x80 then some 1
  else if first < 0xC0 then none
  else if first < 0xE0 then some 2
  else if first < 0xF0 then some 3
  else if first < 0xF8 then some 4
  else none

def isTrailing (octet : UInt8) : Bool := 0x80 ≤ octet && octet < 0xC0

/-- The octets that percent escapes at the start of a text write. They have the form of one
character, but whether there is such a character does not matter. -/
def uriEscape (text : List Char) : Option (List UInt8) := do
  let count ← octetCount? (← (← escapedOctets 1 text).head?)
  let octets ← escapedOctets count text
  if octets.tail.all isTrailing then some octets else none

def uri (verbatim : Bool) : (fuel : Nat) → Place → Option (List UInt8 × Place)
  | 0, _ => none
  | fuel + 1, place =>
    match place.rest with
    | [] => some ([], place)
    | c :: _ =>
      if c = '%' then do
        let octets ← uriEscape place.rest
        let (more, after) ← uri verbatim fuel (place.advance (3 * octets.length))
        return (octets ++ more, after)
      else if isUriChar verbatim c then do
        let (more, after) ← uri verbatim fuel (place.advance 1)
        return (c.toUInt8 :: more, after)
      else some ([], place)

def uriAt (verbatim : Bool) (place : Place) : Option (List UInt8 × Place) :=
  uri verbatim place.bound place

def handle (place : Place) : Option (List Char × Place) :=
  match place.rest with
  | '!' :: _ =>
    let (word, after) := (place.advance 1).span isWordChar
    if after.peek = some '!' then some ('!' :: word ++ ['!'], after.advance 1)
    else some ('!' :: word, after)
  | _ => none

def tagParts (place : Place) : Option (String × Tag × Place) := do
  if (place.advance 1).peek = some '<' then
    let (suffix, after) ← uriAt true (place.advance 2)
    if suffix.isEmpty || after.peek ≠ some '>' then none
    else return ("", .ofOctets suffix, after.advance 1)
  else
    let (head, after) ← handle place
    let (suffix, after) ← uriAt false after
    if head.length > 1 && head.getLast? = some '!' then
      if suffix.isEmpty then none else return (String.ofList head, .ofOctets suffix, after)
    else
      let suffix := Tag.ofText (String.ofList (head.drop 1)) ++ Tag.ofOctets suffix
      if suffix.octets.isEmpty then return ("", .mark, after) else return ("!", suffix, after)

/-- A tag, which has to be followed by a blank or, in a flow collection, by a comma. -/
def tag (inFlow : Bool) (place : Place) : Option (Token × Place) := do
  let (head, suffix, after) ← tagParts place
  if after.isSeparated || (inFlow && after.peek = some ',') then return (.tag head suffix, after)
  else none

def versionNumber (place : Place) : Option (Nat × Place) :=
  let (digits, after) := place.span Char.isDigit
  if digits.isEmpty || 9 < digits.length then none
  else some (digits.foldl (fun n c => 10 * n + (c.toNat - '0'.toNat)) 0, after)

def version (place : Place) : Option (Token × Place) := do
  let (major, place) ← versionNumber (place.skipWhile isBlank)
  if place.peek ≠ some '.' then none
  let (minor, place) ← versionNumber (place.advance 1)
  return (.version major minor, place)

def tagHandle (place : Place) : Option (Token × Place) := do
  let (head, place) ← handle (place.skipWhile isBlank)
  if head ≠ ['!'] && head.getLast? ≠ some '!' then none
  if !place.atBlank then none
  let (replacement, place) ← uriAt true (place.skipWhile isBlank)
  if replacement.isEmpty || !place.isSeparated then none
  return (.tagHandle (String.ofList head) (.ofOctets replacement), place)

def directive (place : Place) : Option (Token × Place) := do
  let (word, place) := place.span isWordChar
  if word.isEmpty || !place.isSeparated then none
  let (token, place) ←
    if word = ['Y', 'A', 'M', 'L'] then version place
    else if word = ['T', 'A', 'G'] then tagHandle place
    else none
  return (token, ← place.lineEnd)

end KvTables.Yaml.Property
