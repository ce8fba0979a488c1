import KvTables.Yaml.Tag

/-! The tokens of a YAML text. -/

set_option autoImplicit false

namespace KvTables.Yaml

inductive Style where
  | plain | quoted | literal | folded
  deriving DecidableEq, Repr

inductive Token where
  | version (major minor : Nat)
  | tagHandle (handle : String) (replacement : Tag)
  | documentStart
  | documentEnd
  | blockSequenceStart
  | blockMappingStart
  | blockEnd
  | flowSequenceStart
  | flowSequenceEnd
  | flowMappingStart
  | flowMappingEnd
  | blockEntry
  | flowEntry
  | key
  | value
  | alias (name : String)
  | anchor (name : String)
  | tag (handle : String) (suffix : Tag)
  | scalar (style : Style) (text : String)
  | textEnd
  /-- The text breaks here. -/
  | broken
  deriving DecidableEq, Repr

end KvTables.Yaml
