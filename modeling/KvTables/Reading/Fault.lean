import KvTables.Decimal.Layout
import KvTables.Text.Quoted

/-! Why a text or a value cannot be read as the type asked for.

Either the text itself is broken, or it is sound and of the wrong shape. Faults are kept as causes;
their wording depends on the notation that was read only in how it names null and writes numbers.

Messages stand here without the place in the text that readers append to them, as in
` at line 1 column 9`. For a YAML text that is broken there is one cause, `noDocument`; its `*` stands
for whatever the scanner says of such a text.
-/

set_option autoImplicit false

namespace KvTables

inductive SyntaxError where
  | endInList | endInObject | endInString | endInValue
  | noColon | noCommaInList | noCommaInObject
  | noIdent | noValue
  | badEscape | badNumber | numberTooLarge | badCodePoint
  | controlCharacter | keyNotString | loneSurrogate | endOfHexEscape
  | trailingComma | trailingText
  | tooDeep | tooManyAliases
  | noDocument
  deriving DecidableEq, Repr

namespace SyntaxError

def message : SyntaxError → String
  | .endInList => "EOF while parsing a list"
  | .endInObject => "EOF while parsing an object"
  | .endInString => "EOF while parsing a string"
  | .endInValue => "EOF while parsing a value"
  | .noColon => "expected `:`"
  | .noCommaInList => "expected `,` or `]`"
  | .noCommaInObject => "expected `,` or `\x7d`"
  | .noIdent => "expected ident"
  | .noValue => "expected value"
  | .badEscape => "invalid escape"
  | .badNumber => "invalid number"
  | .numberTooLarge => "number out of range"
  | .badCodePoint => "invalid unicode code point"
  | .controlCharacter =>
    "control character (\\u0000-\\u001F) found while parsing a string"
  | .keyNotString => "key must be a string"
  | .loneSurrogate => "lone leading surrogate in hex escape"
  | .endOfHexEscape => "unexpected end of hex escape"
  | .trailingComma => "trailing comma"
  | .trailingText => "trailing characters"
  | .tooDeep => "recursion limit exceeded"
  | .tooManyAliases => "repetition limit exceeded"
  | .noDocument => "*"

def isEnd : SyntaxError → Bool
  | .endInList | .endInObject | .endInString | .endInValue => true
  | _ => false

end SyntaxError

/-- The kind of thing that was met. A bare variant is one without a payload. Zero with a minus sign
is an integer, but unlike other natural numbers it stands for no position. -/
inductive Found where
  | null
  | absent
  | bool (value : Bool)
  | int (value : Int)
  | minusZero
  | wideInt (value : Int)
  | float (value : Decimal.Double)
  | nonFinite (value : Decimal.NonFinite)
  | text (value : String)
  | list
  | mapping
  | variant
  | bareVariant
  deriving DecidableEq, Repr

structure Dialect where
  null : String
  numbers : Decimal.Layout

def Dialect.json : Dialect := ⟨"null", .json⟩

def Dialect.yaml : Dialect := ⟨"unit value", .plain⟩

def Found.describe (dialect : Dialect) : Found → String
  | .null => dialect.null
  | .absent => "Option value"
  | .bool value => s!"boolean `{value}`"
  | .int value => s!"integer `{value}`"
  | .minusZero => "integer `0`"
  | .wideInt value => s!"integer `{value}` as " ++ (if value < 0 then "i128" else "u128")
  | .float value => "floating point `" ++ dialect.numbers.write value ++ "`"
  | .nonFinite value => "floating point `" ++ value.text ++ "`"
  | .text value => "string " ++ Text.quoted value
  | .list => "sequence"
  | .mapping => "map"
  | .variant => "enum"
  | .bareVariant => "unit variant"

/-- A number of things, the noun in the plural unless there is one. -/
def countOf (n : Nat) (noun : String) : String :=
  if n = 1 then s!"{n} {noun}" else s!"{n} {noun}s"

inductive Mismatch where
  | wrongType (found : Found) (expected : String)
  | wrongValue (found : Found) (expected : String)
  | wrongLength (length : Nat) (expected : String)
  | unknownVariant (name : String) (known : List String)
  | missingField (name : String)
  | duplicateField (name : String)
  | noVariant (title : String)
  | refused (reason : String)
  deriving DecidableEq, Repr

namespace Mismatch

def choices : List String → String
  | [] => "there are no variants"
  | [only] => s!"expected `{only}`"
  | [first, second] => s!"expected `{first}` or `{second}`"
  | names => "expected one of " ++ String.intercalate ", " (names.map fun name => s!"`{name}`")

def message (dialect : Dialect) : Mismatch → String
  | .wrongType found expected =>
    "invalid type: " ++ found.describe dialect ++ ", expected " ++ expected
  | .wrongValue found expected =>
    "invalid value: " ++ found.describe dialect ++ ", expected " ++ expected
  | .wrongLength length expected => s!"invalid length {length}, expected {expected}"
  | .unknownVariant name known => s!"unknown variant `{name}`, " ++ choices known
  | .missingField name => s!"missing field `{name}`"
  | .duplicateField name => s!"duplicate field `{name}`"
  | .noVariant title => s!"data did not match any variant of untagged enum {title}"
  | .refused reason => reason

end Mismatch

/-- A mismatch may carry the path of the value it arose at. -/
inductive Fault where
  | broken (cause : SyntaxError)
  | mismatch (path : Option String) (cause : Mismatch)
  deriving DecidableEq, Repr

namespace Fault

def message (dialect : Dialect) : Fault → String
  | .broken cause => cause.message
  | .mismatch none cause => cause.message dialect
  | .mismatch (some path) cause => path ++ ": " ++ cause.message dialect

/-- Give a mismatch a path unless it has one. -/
def placed (path : Option String) : Fault → Fault
  | .mismatch none cause => .mismatch path cause
  | fault => fault

/-- The three classes of faults: of shape, of a text that ends early, of any other broken text. -/
def category : Fault → String
  | .mismatch _ _ => "Data"
  | .broken cause => if cause.isEnd then "Eof" else "Syntax"

end Fault

end KvTables
