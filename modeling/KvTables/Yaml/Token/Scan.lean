import KvTables.Yaml.Token.Property

/-! From text to tokens.

Block structure is found from columns: a node that starts further right than the block around it
opens a new block, and a line that starts further left closes blocks. A mapping key need not be
announced; what may turn out to be one is remembered until a colon follows on the same line and
within 1024 octets. A token is handed on as soon as nothing can come before it any more, and no
sooner, so that what stands before the place where a text breaks is well defined.
-/

set_option autoImplicit false

namespace KvTables.Yaml

/-- Where a key may have started: how many tokens came before it, its place, and whether there has to
be a key at that place. -/
structure PossibleKey where
  number : Nat
  index : Nat
  line : Nat
  column : Nat
  required : Bool

def longestKey : Nat := 1024

/-- How many octets of a text are looked at together; pieces end between characters. -/
def pieceSize : Nat := 16384

/-- Where the first piece starts that holds a character no YAML text may hold, given where the
current piece starts and how many octets come before the rest of the text. -/
def firstUnsound : (start index : Nat) → List Char → Option Nat
  | _, _, [] => none
  | start, index, c :: rest =>
    let next := index + c.utf8Size
    let start := if start + pieceSize < next then index else start
    if isAllowed c then firstUnsound start next rest else some start

structure Scan where
  place : Place
  /-- Where a piece starts that breaks the text as soon as a character of it is needed. -/
  unsound : Option Nat
  /-- The number of tokens handed on. -/
  settled : Nat
  /-- The tokens after those. -/
  pending : List Token
  /-- The column of the innermost open block, and of those around it; -1 outside of all. -/
  indent : Int
  indents : List Int
  /-- The possible key of each open flow collection, innermost first, and of the block context. -/
  keys : List (Option PossibleKey)
  keyAllowed : Bool

namespace Scan

def start (text : List Char) : Scan :=
  ⟨Place.start text, firstUnsound 0 0 text, 0, [], -1, [], [none], true⟩

def sees (scan : Scan) (count : Nat) : Bool :=
  scan.unsound.all fun limit => (scan.place.advance count).index ≤ limit

def inFlow (scan : Scan) : Bool := 1 < scan.keys.length

def count (scan : Scan) : Nat := scan.settled + scan.pending.length

def emit (scan : Scan) (token : Token) : Scan :=
  { scan with pending := scan.pending ++ [token] }

def insert (scan : Scan) (number : Nat) (token : Token) : Scan :=
  let earlier := number - scan.settled
  { scan with pending := scan.pending.take earlier ++ token :: scan.pending.drop earlier }

def moveTo (scan : Scan) (place : Place) : Scan := { scan with place }

def allowKey (scan : Scan) (keyAllowed : Bool) : Scan := { scan with keyAllowed }

def openBlock (scan : Scan) (column : Nat) (number : Nat) (token : Token) : Scan :=
  if scan.inFlow then scan
  else if scan.indent < column then
    { scan.insert number token with indent := column, indents := scan.indent :: scan.indents }
  else scan

def closing (column : Int) : (indent : Int) → List Int → Nat × Int × List Int
  | indent, [] => (0, indent, [])
  | indent, outer :: rest =>
    if column < indent then
      let (closed, indent, rest) := closing column outer rest
      (closed + 1, indent, rest)
    else (0, indent, outer :: rest)

def closeBlocks (scan : Scan) (column : Int) : Scan :=
  if scan.inFlow then scan
  else
    let (closed, indent, indents) := closing column scan.indent scan.indents
    { scan with
      indent, indents
      pending := scan.pending ++ List.replicate closed .blockEnd }

def possibleKey (scan : Scan) : Option PossibleKey := scan.keys.head?.join

def dropKey (scan : Scan) : Option Scan :=
  match scan.possibleKey with
  | some key => if key.required then none else some { scan with keys := none :: scan.keys.tail }
  | none => some scan

def markKey (scan : Scan) : Option Scan :=
  if scan.keyAllowed then do
    let place := scan.place
    -- At the column of its block nothing but a key can follow, so a colon is then owed.
    let required := !scan.inFlow && scan.indent == place.column
    let scan ← scan.dropKey
    let key : PossibleKey := ⟨scan.count, place.index, place.line, place.column, required⟩
    return { scan with keys := some key :: scan.keys.tail }
  else some scan

def isStale (place : Place) (key : PossibleKey) : Bool :=
  key.line < place.line || key.index + longestKey < place.index

/-- Give up the possible keys that a colon can no longer follow. -/
def dropStale (scan : Scan) : Option Scan :=
  if scan.keys.any (·.any fun key => key.required && isStale scan.place key) then none
  else some { scan with keys := scan.keys.map (·.filter fun key => !isStale scan.place key) }

/-- Pass blanks, comments and line breaks up to the next token. A line may start with a byte order
mark, and a new line may start a key. -/
def toNextToken : (fuel : Nat) → Scan → Scan
  | 0, scan => scan
  | fuel + 1, scan =>
    let place := scan.place
    let place :=
      if place.column = 0 ∧ place.peek = some byteOrderMark then place.advance 1 else place
    -- Where a key may start, a tab cannot stand for indentation.
    let tabs := scan.inFlow || !scan.keyAllowed
    let place := place.skipWhile fun c => c = ' ' || (tabs && c = '\t')
    let place := if place.peek = some '#' then place.skipWhile fun c => !isBreak c else place
    if place.atBreak then
      toNextToken fuel { scan with
        place := place.newline
        keyAllowed := scan.keyAllowed || !scan.inFlow }
    else scan.moveTo place

def indicator (scan : Scan) (width : Nat) (token : Token) : Scan :=
  (scan.moveTo (scan.place.advance width)).emit token

def textEnd (scan : Scan) : Option Scan := do
  let scan ← (scan.closeBlocks (-1)).dropKey
  return ((scan.allowKey false).moveTo scan.place.nextLine).emit .textEnd

def directive (scan : Scan) : Option Scan := do
  let scan ← (scan.closeBlocks (-1)).dropKey
  let (token, place) ← Property.directive (scan.place.advance 1)
  return ((scan.allowKey false).moveTo place).emit token

def documentMark (scan : Scan) (token : Token) : Option Scan := do
  let scan ← (scan.closeBlocks (-1)).dropKey
  return (scan.allowKey false).indicator 3 token

def flowStart (scan : Scan) (token : Token) : Option Scan := do
  let scan ← scan.markKey
  return ({ scan with keys := none :: scan.keys }.allowKey true).indicator 1 token

def flowEnd (scan : Scan) (token : Token) : Option Scan := do
  let scan ← scan.dropKey
  let keys := if scan.inFlow then scan.keys.tail else scan.keys
  return ({ scan with keys }.allowKey false).indicator 1 token

def flowEntry (scan : Scan) : Option Scan := do
  let scan ← scan.dropKey
  return (scan.allowKey true).indicator 1 .flowEntry

def blockEntry (scan : Scan) : Option Scan := do
  if !scan.inFlow && !scan.keyAllowed then none
  let scan ← (scan.openBlock scan.place.column scan.count .blockSequenceStart).dropKey
  return (scan.allowKey true).indicator 1 .blockEntry

def explicitKey (scan : Scan) : Option Scan := do
  if !scan.inFlow && !scan.keyAllowed then none
  let scan ← (scan.openBlock scan.place.column scan.count .blockMappingStart).dropKey
  return (scan.allowKey !scan.inFlow).indicator 1 .key

def value (scan : Scan) : Option Scan :=
  match scan.possibleKey with
  | some key =>
    -- The key is announced in front of its own tokens, and so is a mapping that it opens.
    let scan := (scan.insert key.number .key).openBlock key.column key.number .blockMappingStart
    some (({ scan with keys := none :: scan.keys.tail }.allowKey false).indicator 1 .value)
  | none =>
    if !scan.inFlow && !scan.keyAllowed then none
    else
      let scan := scan.openBlock scan.place.column scan.count .blockMappingStart
      some ((scan.allowKey !scan.inFlow).indicator 1 .value)

def content (scan : Scan) (read : Place → Option (Token × Place)) : Option Scan := do
  let scan ← scan.markKey
  let (token, place) ← read scan.place
  return ((scan.allowKey false).moveTo place).emit token

def named (token : String → Token) (place : Place) : Option (Token × Place) := do
  let (name, place) ← Property.name (place.advance 1)
  return (token name, place)

def quotedScalar (quote : Char) (place : Place) : Option (Token × Place) := do
  let (text, place) ← Scalar.quoted quote place.bound (place.advance 1)
  return (.scalar .quoted (String.ofList text), place)

def blockScalar (scan : Scan) (style : Style) : Option Scan := do
  let scan ← scan.dropKey
  let (text, place) ← Scalar.block (style == .folded) scan.indent (scan.place.advance 1)
  return ((scan.allowKey true).moveTo place).emit (.scalar style (String.ofList text))

def plainScalar (scan : Scan) : Option Scan := do
  let scan ← scan.markKey
  let scanned ← Scalar.plain scan.inFlow (scan.indent + 1).toNat scan.place.bound
    scan.place ⟨[], []⟩
  return ((scan.allowKey scanned.newLine).moveTo scanned.place).emit
    (.scalar .plain (String.ofList scanned.text))

/-- Whether a plain scalar may start with a character that has some text behind it. -/
def startsPlain (inFlow : Bool) (c : Char) (rest : List Char) : Bool :=
  !(isBlank c || isBreak c || ['-', '?', ':', ',', '[', ']', '\x7b', '\x7d', '#', '&', '*', '!', '|',
    '>', '\'', '"', '%', '@', '`'].contains c) ||
  (c = '-' && !rest.head?.any isBlank) ||
  (!inFlow && (c = '?' || c = ':') && !separated rest)

def token (scan : Scan) : Option Scan :=
  let place := scan.place
  match place.rest with
  | [] => scan.textEnd
  | c :: rest =>
    if place.column = 0 ∧ c = '%' then scan.directive
    else if place.atDocumentMark '-' then scan.documentMark .documentStart
    else if place.atDocumentMark '.' then scan.documentMark .documentEnd
    else if c = '[' then scan.flowStart .flowSequenceStart
    else if c = '\x7b' then scan.flowStart .flowMappingStart
    else if c = ']' then scan.flowEnd .flowSequenceEnd
    else if c = '\x7d' then scan.flowEnd .flowMappingEnd
    else if c = ',' then scan.flowEntry
    else if c = '-' ∧ separated rest then scan.blockEntry
    else if c = '?' ∧ (scan.inFlow ∨ separated rest) then scan.explicitKey
    else if c = ':' ∧ (scan.inFlow ∨ separated rest) then scan.value
    else if c = '*' then scan.content (named .alias)
    else if c = '&' then scan.content (named .anchor)
    else if c = '!' then scan.content (Property.tag scan.inFlow)
    else if c = '|' ∧ !scan.inFlow then scan.blockScalar .literal
    else if c = '>' ∧ !scan.inFlow then scan.blockScalar .folded
    else if c = '\'' ∨ c = '"' then scan.content (quotedScalar c)
    else if startsPlain scan.inFlow c rest then scan.plainScalar
    else none

/-- Scan on by one token, unless the text breaks there. Telling marks of documents from other tokens
takes four characters, and seeing where a token ends takes one behind it. -/
def step (scan : Scan) : Option Scan := do
  let scan ← (toNextToken scan.place.bound scan).dropStale
  if !scan.sees 4 then none
  let scan ← (scan.closeBlocks scan.place.column).token
  if scan.sees 1 then some scan else none

/-- Whether something can still come before the first pending token: it may become a key. -/
def isOpen (scan : Scan) : Bool := scan.keys.any (·.any fun key => key.number == scan.settled)

/-- All tokens from the first pending one on. Where the text breaks they end with `broken`. -/
def run : (fuel : Nat) → Scan → List Token
  | 0, _ => [.broken]
  | fuel + 1, scan =>
    match scan.pending with
    | [] =>
      match scan.step with
      | some scan => run fuel scan
      | none => [.broken]
    | token :: rest =>
      match scan.dropStale with
      | none => [.broken]
      | some scan =>
        -- A token that may turn out to be a key waits for what has to stand before it.
        if scan.isOpen then
          match scan.step with
          | some scan => run fuel scan
          | none => [.broken]
        else if token = .textEnd then [.textEnd]
        else token :: run fuel { scan with settled := scan.settled + 1, pending := rest }

end Scan

def Token.ofText (text : String) : List Token :=
  let characters := text.toList
  -- Each round scans on or hands on a token, and a character makes at most four tokens.
  Scan.run (8 * characters.length + 16) (Scan.start characters)

end KvTables.Yaml
