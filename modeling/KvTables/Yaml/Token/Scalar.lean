import KvTables.Yaml.Place

/-! Scalars in their three spellings: plain, quoted and block.

Lines of plain and quoted scalars are folded: a single line break becomes a space, and of several
breaks all but the first are kept.
-/

set_option autoImplicit false

namespace KvTables.Yaml.Scalar

/-- Blanks and line breaks between two stretches of a scalar. Blanks after a break do not count. -/
structure Gap where
  blanks : List Char
  breaks : List Char

def Gap.isBroken (gap : Gap) : Bool := !gap.breaks.isEmpty

def Gap.fold (gap : Gap) : List Char :=
  match gap.breaks with
  | [] => gap.blanks
  | ['\n'] => [' ']
  | '\n' :: more => more
  | breaks => breaks

/-- The gap from a place on. A tab left of `margin` on a new line is refused. -/
def gap (margin : Nat) : (fuel : Nat) → Place → (broken : Bool) → Option (Gap × Place)
  | 0, _, _ => none
  | fuel + 1, place, broken =>
    match place.rest with
    | [] => some (⟨[], []⟩, place)
    | c :: _ =>
      if isBlank c then
        if broken then
          if c = '\t' ∧ place.column < margin then none
          else gap margin fuel (place.advance 1) true
        else do
          let (more, after) ← gap margin fuel (place.advance 1) false
          return (⟨if more.isBroken then [] else c :: more.blanks, more.breaks⟩, after)
      else if isBreak c then do
        let (more, after) ← gap margin fuel place.newline true
        return (⟨[], breakChar c :: more.breaks⟩, after)
      else some (⟨[], []⟩, place)

def gapAt (margin : Nat) (place : Place) (broken : Bool) : Option (Gap × Place) :=
  gap margin place.bound place broken

/-! ### Plain scalars -/

def isFlowIndicator (c : Char) : Bool :=
  c = ',' || c = '[' || c = ']' || c = '\x7b' || c = '\x7d'

/-- The characters of a plain scalar up to a blank or to where the scalar ends. Within flow
collections a colon may not stand before an indicator. -/
def stretch (inFlow : Bool) : List Char → Option (List Char)
  | [] => some []
  | c :: rest =>
    if isBlank c || isBreak c then some []
    else if inFlow && c = ':' && rest.head?.any (fun next => isFlowIndicator next || next = '?') then
      none
    else if c = ':' && separated rest then some []
    else if inFlow && isFlowIndicator c then some []
    else (stretch inFlow rest).map (c :: ·)

/-- A scanned scalar: its text, the place behind it, and whether that is on a new line. -/
structure Scanned where
  text : List Char
  place : Place
  newLine : Bool

/-- A plain scalar from a place on, after some gap. Continuation lines in block context have to
reach the margin. -/
def plain (inFlow : Bool) (margin : Nat) : (fuel : Nat) → Place → Gap → Option Scanned
  | 0, _, _ => none
  | fuel + 1, place, before =>
    let ended : Scanned := ⟨[], place, before.isBroken⟩
    -- A number sign after a gap starts a comment.
    if place.atDocumentLimit || place.peek = some '#' then some ended
    else do
      let taken ← stretch inFlow place.rest
      if taken.isEmpty then return ended
      let after := place.advance taken.length
      let here := before.fold ++ taken
      if after.atBlank || after.atBreak then
        let (between, next) ← gapAt margin after false
        -- The next line belongs to an outer block; the break before it is not part of the text.
        if !inFlow && next.column < margin then return ⟨here, next, between.isBroken⟩
        let more ← plain inFlow margin fuel next between
        return { more with text := here ++ more.text }
      else return ⟨here, after, false⟩

/-! ### Quoted scalars -/

def hexValue? (c : Char) : Option Nat :=
  if c.isDigit then some (c.toNat - '0'.toNat)
  else if 'a' ≤ c ∧ c ≤ 'f' then some (c.toNat - 'a'.toNat + 10)
  else if 'A' ≤ c ∧ c ≤ 'F' then some (c.toNat - 'A'.toNat + 10)
  else none

def hexNumber (digits : List Char) : Option Nat :=
  digits.foldlM (fun n c => (hexValue? c).map (16 * n + ·)) 0

def shortEscape? (c : Char) : Option Char :=
  match c with
  | '0' => some '\x00'
  | 'a' => some '\x07'
  | 'b' => some '\x08'
  | 't' => some '\t'
  | '\t' => some '\t'
  | 'n' => some '\n'
  | 'v' => some '\x0b'
  | 'f' => some '\x0c'
  | 'r' => some '\r'
  | 'e' => some '\x1b'
  | ' ' => some ' '
  | '"' => some '"'
  | '/' => some '/'
  | '\\' => some '\\'
  | 'N' => some '\x85'
  | '_' => some '\xa0'
  | 'L' => some '\u2028'
  | 'P' => some '\u2029'
  | _ => none

def escapeLength? (c : Char) : Option Nat :=
  match c with
  | 'x' => some 2
  | 'u' => some 4
  | 'U' => some 8
  | _ => none

/-- The character that a backslash and what follows it write, and how many characters those are. -/
def escape : List Char → Option (Char × Nat)
  | '\\' :: c :: rest =>
    match shortEscape? c with
    | some meant => some (meant, 2)
    | none => do
      let length ← escapeLength? c
      let digits := rest.take length
      if digits.length < length then none
      let code ← hexNumber digits
      if valid : code.isValidChar then some (Char.ofNatAux code valid, 2 + length) else none
  | _ => none

def quoted (quote : Char) : (fuel : Nat) → Place → Option (List Char × Place)
  | 0, _ => none
  | fuel + 1, place =>
    let goOn (text : List Char) (place : Place) : Option (List Char × Place) := do
      let (more, after) ← quoted quote fuel place
      return (text ++ more, after)
    let goOnBehind (text : Gap → List Char) (place : Place) (broken : Bool) :
        Option (List Char × Place) := do
      let (between, next) ← gapAt 0 place broken
      if next.atDocumentLimit then none else goOn (text between) next
    match place.rest with
    | [] => none
    | c :: rest =>
      if isBlank c || isBreak c then goOnBehind Gap.fold place false
      else if c = quote then
        if quote = '\'' && rest.head? = some '\'' then goOn ['\''] (place.advance 2)
        else some ([], place.advance 1)
      else if c = '\\' && quote = '"' then
        -- A break behind a backslash joins its line to the next without a space.
        if rest.head?.any isBreak then goOnBehind Gap.breaks (place.advance 1).newline true
        else do
          let (meant, length) ← escape place.rest
          goOn [meant] (place.advance length)
      else goOn [c] (place.advance 1)

/-! ### Block scalars -/

inductive Chomp where
  | clip | strip | keep
  deriving DecidableEq, Repr

def chomp? (c : Char) : Option Chomp :=
  match c with
  | '+' => some .keep
  | '-' => some .strip
  | _ => none

/-- An explicit indentation; zero is refused. -/
def indentDigit (place : Place) : Option (Option Nat × Place) :=
  match place.rest with
  | c :: _ =>
    if c = '0' then none
    else if c.isDigit then some (some (c.toNat - '0'.toNat), place.advance 1)
    else some (none, place)
  | [] => some (none, place)

def chompMark (place : Place) : Option Chomp × Place :=
  match place.peek.bind chomp? with
  | some chomp => (some chomp, place.advance 1)
  | none => (none, place)

/-- The header of a block scalar after its indicator: chomping and indentation in either order. -/
def header (place : Place) : Option (Chomp × Option Nat × Place) := do
  match chompMark place with
  | (some chomp, place) =>
    let (indent, place) ← indentDigit place
    return (chomp, indent, ← place.lineEnd)
  | (none, place) =>
    let (indent, place) ← indentDigit place
    let (chomp, place) := if indent.isSome then chompMark place else (none, place)
    return (chomp.getD .clip, indent, ← place.lineEnd)

/-- Indentation and empty lines before the next line with content: the breaks passed, the place, and
the widest indentation seen. A tab within the indentation is refused. -/
def leadingLines (indent : Option Nat) : (fuel : Nat) → Place → Option (List Char × Place × Nat)
  | 0, _ => none
  | fuel + 1, place =>
    let inside (column : Nat) : Bool := indent.all (column < ·)
    let spaces := (place.rest.takeWhile (· = ' ')).length
    let width := match indent with
      | none => spaces
      | some indent => min spaces (indent - place.column)
    let place := place.advance width
    if inside place.column && place.peek = some '\t' then none
    else
      match place.rest with
      | c :: _ =>
        if isBreak c then do
          let (breaks, after, widest) ← leadingLines indent fuel place.newline
          return (breakChar c :: breaks, after, max place.column widest)
        else some ([], place, place.column)
      | [] => some ([], place, place.column)

/-- The lines of a block scalar. `ended` is the break that ends the line before, and `empty` are the
breaks of the empty lines behind that. -/
def lines (fold : Bool) (chomp : Chomp) (indent : Nat) :
    (fuel : Nat) → Place → (ended empty : List Char) → (afterBlank : Bool) →
    Option (List Char × Place)
  | 0, _, _, _, _ => none
  | fuel + 1, place, ended, empty, afterBlank =>
    if place.column == indent && !place.rest.isEmpty then do
      let startsBlank := place.atBlank
      -- Lines that start with a blank keep the breaks on both of their sides.
      let joined :=
        if fold && ended.head? = some '\n' && !afterBlank && !startsBlank then
          if empty.isEmpty then [' '] else []
        else ended
      let (content, place) := place.span fun c => !isBreak c
      let (ended', place) := match place.rest with
        | [] => ([], place)
        | c :: _ => ([breakChar c], place.newline)
      let (empty', place, _) ← leadingLines (some indent) place.bound place
      let (more, after) ← lines fold chomp indent fuel place ended' empty' startsBlank
      return (joined ++ empty ++ content ++ more, after)
    else
      let tail := match chomp with
        | .strip => []
        | .clip => ended
        | .keep => ended ++ empty
      some (tail, place)

def block (fold : Bool) (parent : Int) (place : Place) : Option (List Char × Place) := do
  let (chomp, explicit, place) ← header place
  let indent := explicit.map fun width => width + parent.toNat
  let (empty, place, widest) ← leadingLines indent place.bound place
  -- Without an explicit indentation the first line with content decides.
  let indent := indent.getD (max widest (max (parent + 1).toNat 1))
  lines fold chomp indent place.bound place [] empty false

end KvTables.Yaml.Scalar
