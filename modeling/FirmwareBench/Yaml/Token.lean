set_option autoImplicit false

/-!
# Tokens of a YAML text
-/

namespace FirmwareBench.Yaml

/-- How a scalar is written. -/
inductive Style where
  | plain
  | quoted
  | literal
  | folded
deriving DecidableEq, Repr

/-- A token. Blocks have no brackets in the text; their starts and ends follow from indentation. -/
inductive Token where
  /-- The version named before a document. -/
  | version (major minor : Nat)
  /-- A short form for tags, named before a document. -/
  | tagHandle (handle stem : List Char)
  | documentStart
  | documentEnd
  | blockSequenceStart
  | blockMappingStart
  | blockEnd
  | flowSequenceStart
  | flowSequenceEnd
  | flowMappingStart
  | flowMappingEnd
  | blockEntry
  | flowEntry
  | key
  | value
  | reference (name : String)
  | anchor (name : String)
  | tag (handle suffix : List Char)
  | scalar (text : String) (style : Style)
deriving DecidableEq, Repr

end FirmwareBench.Yaml
