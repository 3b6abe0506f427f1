set_option autoImplicit false

/-!
# What can be wrong with a YAML text
-/

namespace FirmwareBench.Yaml

/-- What is wrong with a YAML text, or with what it says. -/
inductive Fault where
  /-- The bytes are not in UTF-8 or hold control characters. -/
  | unreadable
  | malformed (line column : Nat)
  /-- The tokens form no document. -/
  | misplaced
  | unknownAlias (name : String)
  | severalDocuments
  /-- A value of another kind than the one asked for. -/
  | unexpected (wanted : String)
  | missingField (name : String)
  | repeatedField (name : String)
  | tooManyAliases
deriving DecidableEq, Repr

def Fault.message : Fault → String
  | .unreadable => "the text is not in UTF-8 or holds control characters"
  | .malformed line column =>
    "unexpected text at line " ++ toString (line + 1) ++ " column " ++ toString (column + 1)
  | .misplaced => "unexpected structure"
  | .unknownAlias name => "unknown anchor " ++ name
  | .severalDocuments => "more than one document"
  | .unexpected wanted => wanted ++ " expected"
  | .missingField name => "missing field \x60" ++ name ++ "\x60"
  | .repeatedField name => "duplicate field \x60" ++ name ++ "\x60"
  | .tooManyAliases => "aliases repeat too much"

end FirmwareBench.Yaml
