/-! The tokens of YAML. Indentation is among them: a block collection has a token at its start and
one at its end, as if it had brackets. -/

namespace FieldImage.Yaml

inductive Token where
  | version (major minor : Nat)
  /-- A handle, and the octets that it stands for. -/
  | tagHandle (handle : String) (octets : List UInt8)
  | documentStart
  | documentEnd
  | blockSequence
  | blockMapping
  | blockEnd
  | flowSequence
  | flowSequenceEnd
  | flowMapping
  | flowMappingEnd
  /-- A dash before an item. -/
  | dash
  | comma
  /-- The key of a member comes next, written with a question mark or seen from its value. -/
  | key
  | value
  | reference (name : String)
  | anchor (name : String)
  /-- A handle, empty when the octets are the whole tag, and the octets after it. -/
  | tag (handle : String) (octets : List UInt8)
  | scalar (isPlain : Bool) (text : String)
deriving DecidableEq, Repr

end FieldImage.Yaml
