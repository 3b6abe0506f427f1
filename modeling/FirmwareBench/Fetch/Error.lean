import FirmwareBench.FileTree.Fault
import FirmwareBench.Path
import FirmwareBench.Pattern.Flags
import FirmwareBench.Yaml.Fault
set_option autoImplicit false

/-!
# What can go wrong when archives are fetched
-/

namespace FirmwareBench

/-- A failed step on the way to the archives. -/
inductive FetchError where
  | readmeUnreadable (path : Path) (cause : Fault)
  /-- The README has no link with the label of the artifact. -/
  | linkNotFound (artifact label : String)
  | badPattern (artifact : String) (cause : Pattern.Fault)
  /-- The download command has no words. -/
  | emptyCommand
  | notStarted (program : String) (cause : Fault)
  /-- The download program ran and failed; it has no exit code if a signal ended it. -/
  | commandFailed (command : String) (code? : Option Int)
  | unknownArtifact (name : String)
  | manifestUnreadable (path : Path) (cause : Fault)
  /-- The manifest is not a list of artifacts. -/
  | manifestMalformed (path : Path) (cause : Yaml.Fault)
deriving DecidableEq, Repr

namespace FetchError

def message : FetchError → String
  | readmeUnreadable path cause => "cannot read " ++ path.text ++ ": " ++ cause.message
  | linkNotFound artifact label =>
    "[" ++ label ++ "] link for \x60" ++ artifact ++ "\x60 was not found in the README"
  | badPattern artifact cause =>
    "invalid link pattern for \x60" ++ artifact ++ "\x60: " ++ cause.message
  | emptyCommand => "download command is empty"
  | notStarted program cause => "failed to start \x60" ++ program ++ "\x60: " ++ cause.message
  | commandFailed command code? =>
    "command failed: " ++ command ++ " (exit code: " ++ (code?.map toString).getD "signal" ++ ")"
  | unknownArtifact name => "unknown artifact: " ++ name
  | manifestUnreadable path cause =>
    "cannot read manifest " ++ path.text ++ ": " ++ cause.message
  | manifestMalformed path cause => "invalid manifest " ++ path.text ++ ": " ++ cause.message

/-- What the fault behind an error says. -/
def cause? : FetchError → Option String
  | readmeUnreadable _ cause | notStarted _ cause | manifestUnreadable _ cause => some cause.message
  | badPattern _ cause => some cause.message
  | manifestMalformed _ cause => some cause.message
  | _ => none

end FetchError

end FirmwareBench
