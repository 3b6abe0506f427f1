set_option autoImplicit false

/-!
# Errors of the build description

What can go wrong while boards, demos, tools and variables are looked up, assigned or expanded, and
the text each cause is reported with.
-/

namespace FirmwareBench

/-- A cause of failure in the description of a build. -/
inductive BuildError where
  | unknownBoard (name : String)
  | unknownDemo (name : String)
  | unknownTool (name : String)
  /-- An assignment without `=` or with a blank key. -/
  | invalidAssignment (text : String)
  /-- References nested deeper than the limit, met while `template` was expanded. -/
  | expansionTooDeep (template : String) (depth : Nat)
deriving DecidableEq, Repr

def BuildError.message : BuildError → String
  | .unknownBoard name => "unknown board: " ++ name ++ " (expected one of eh1, eh2, el2, hifive1)"
  | .unknownDemo name => "unknown demo: " ++ name
  | .unknownTool name => "unknown tool: " ++ name ++ " (expected one of ar, as, cc)"
  | .invalidAssignment text => "invalid assignment `" ++ text ++ "` (expected KEY=VALUE)"
  | .expansionTooDeep template depth =>
    "variable expansion exceeded depth " ++ toString depth ++ " while expanding `" ++ template ++ "`"

end FirmwareBench
