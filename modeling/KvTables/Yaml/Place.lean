/-! Places in a YAML text, and its character classes. -/

set_option autoImplicit false

namespace KvTables.Yaml

def isBlank (c : Char) : Bool := c = ' ' || c = '\t'

/-- Carriage return, line feed, next line, line and paragraph separator. -/
def isBreak (c : Char) : Bool :=
  c = '\r' || c = '\n' || c = '\x85' || c = '\u2028' || c = '\u2029'

def isWordChar (c : Char) : Bool := c.isAlphanum || c = '_' || c = '-'

def isAllowed (c : Char) : Bool :=
  c = '\t' || c = '\n' || c = '\r' || (' ' ≤ c && c ≤ '~') || c = '\x85' ||
    ('\xa0' ≤ c && c.toNat ≤ 0xFFFD) || 0x10000 ≤ c.toNat

def byteOrderMark : Char := '\ufeff'

/-- Whether a text ends here or goes on with a blank or a line break. -/
def separated : List Char → Bool
  | [] => true
  | c :: _ => isBlank c || isBreak c

/-- The text from a place on, and where that is: octets before it, lines before it, and characters
before it on its line. -/
structure Place where
  rest : List Char
  index : Nat
  line : Nat
  column : Nat
  /-- More than the length of the whole text; it bounds every loop over what is left. -/
  bound : Nat
  deriving Repr

namespace Place

def start (text : List Char) : Place := ⟨text, 0, 0, 0, text.length + 1⟩

def peek (place : Place) : Option Char := place.rest.head?

def advance (place : Place) (count : Nat) : Place :=
  { place with
    rest := place.rest.drop count
    index := (place.rest.take count).foldl (fun index c => index + c.utf8Size) place.index
    column := place.column + count }

/-- The characters up to the first that fails a test, none of them a line break. -/
def span (place : Place) (test : Char → Bool) : List Char × Place :=
  let taken := place.rest.takeWhile test
  (taken, place.advance taken.length)

def skipWhile (place : Place) (test : Char → Bool) : Place := (place.span test).2

def newline (place : Place) : Place :=
  match place.rest with
  | '\r' :: '\n' :: rest => ⟨rest, place.index + 2, place.line + 1, 0, place.bound⟩
  | c :: rest => ⟨rest, place.index + c.utf8Size, place.line + 1, 0, place.bound⟩
  | [] => place

/-- The start of the line behind this place, or this place if a line starts here. -/
def nextLine (place : Place) : Place :=
  if place.column = 0 then place else { place with line := place.line + 1, column := 0 }

def atBreak (place : Place) : Bool := place.peek.any isBreak

def atBlank (place : Place) : Bool := place.peek.any isBlank

def isSeparated (place : Place) : Bool := separated place.rest

def lineEnd (place : Place) : Option Place :=
  let place := place.skipWhile isBlank
  let place := if place.peek = some '#' then place.skipWhile fun c => !isBreak c else place
  if place.rest.isEmpty then some place
  else if place.atBreak then some place.newline
  else none

/-- Whether a line here starts with three dashes or three dots on their own. -/
def atDocumentMark (place : Place) (mark : Char) : Bool :=
  place.column == 0 &&
    (match place.rest with
    | a :: b :: c :: rest => a = mark && b = mark && c = mark && separated rest
    | _ => false)

def atDocumentLimit (place : Place) : Bool :=
  place.atDocumentMark '-' || place.atDocumentMark '.'

end Place

def breakChar (c : Char) : Char := if c = '\u2028' || c = '\u2029' then c else '\n'

end KvTables.Yaml
