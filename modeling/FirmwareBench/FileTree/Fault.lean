set_option autoImplicit false

/-!
# Faults of the system

Why reading, writing or starting something failed, with the wording and the number of the system.
-/

namespace FirmwareBench

/-- A failed operation of the system. -/
inductive Fault where
  | notFound
  /-- The permission bits of the file forbid it. -/
  | denied
  /-- The file is neither a program nor a script. -/
  | badProgram
  | occupied
  /-- A component before the last one is no directory. -/
  | notDirectory
  | isDirectory
  | tooManyLinks
  /-- A component is too long. -/
  | nameTooLong
  /-- The content is not in UTF-8. -/
  | notText
  | nulInPath
  | nulInArgument
deriving DecidableEq, Repr

namespace Fault

/-- What went wrong. -/
def reason : Fault → String
  | notFound => "No such file or directory"
  | denied => "Permission denied"
  | badProgram => "Exec format error"
  | occupied => "File exists"
  | notDirectory => "Not a directory"
  | isDirectory => "Is a directory"
  | tooManyLinks => "Too many levels of symbolic links"
  | nameTooLong => "File name too long"
  | notText => "stream did not contain valid UTF-8"
  | nulInPath => "file name contained an unexpected NUL byte"
  | nulInArgument => "nul byte found in provided data"

/-- The number the system has for a fault; some faults are found before the system is asked. -/
def number? : Fault → Option Nat
  | notFound => some 2
  | badProgram => some 8
  | denied => some 13
  | occupied => some 17
  | notDirectory => some 20
  | isDirectory => some 21
  | nameTooLong => some 36
  | tooManyLinks => some 40
  | notText | nulInPath | nulInArgument => none

def message (fault : Fault) : String :=
  match fault.number? with
  | some number => fault.reason ++ " (os error " ++ toString number ++ ")"
  | none => fault.reason

end Fault

end FirmwareBench
