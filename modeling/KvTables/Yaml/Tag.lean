/-! Tags of YAML nodes.

A tag is made of octets and not of characters, since percent signs may write any octets.
-/

set_option autoImplicit false

namespace KvTables.Yaml

/-- The octets of a tag, of which none is zero once it is built by `ofOctets`. -/
structure Tag where
  octets : List UInt8
  deriving DecidableEq, Repr

namespace Tag

/-- A tag ends before the first octet that is zero. -/
def ofOctets (octets : List UInt8) : Tag := ⟨octets.takeWhile (· ≠ 0)⟩

def ofText (text : String) : Tag := ofOctets (text.toList.flatMap String.utf8EncodeChar)

instance : Append Tag := ⟨fun front back => ⟨front.octets ++ back.octets⟩⟩

def mark : Tag := ofText "!"

/-- Whether a tag is one of the document's own, which start with an exclamation mark. -/
def isLocal (tag : Tag) : Bool := tag.octets.head? == some '!'.toUInt8

/-- The variant that a tag of the document's own names; the lone exclamation mark names itself. -/
def variant? (tag : Tag) : Option String :=
  if tag.isLocal then
    let name := if tag = mark then tag.octets else tag.octets.tail
    String.fromUTF8? ⟨name.toArray⟩
  else none

def null : Tag := ofText "tag:yaml.org,2002:null"

def bool : Tag := ofText "tag:yaml.org,2002:bool"

def int : Tag := ofText "tag:yaml.org,2002:int"

def float : Tag := ofText "tag:yaml.org,2002:float"

end Tag

end KvTables.Yaml
