import FirmwareBench.Text.Blank
set_option autoImplicit false

/-!
# Flags and faults of written patterns

The flags that hold at a place of a written pattern, what can be wrong with one, and the blanks and
comments that do not count while the flag for them is on.
-/

namespace FirmwareBench.Pattern

/-- What is wrong with a written pattern. -/
inductive Fault where
  | malformed
  /-- Neither property nor script nor category has this name. -/
  | unknownProperty (name : String)
  /-- The pattern could match something that is no text, or asks for more than ASCII without the
  flag for it. -/
  | outsideText
  | tooDeep
  /-- The automaton of the pattern would be too large. -/
  | tooLarge
deriving DecidableEq, Repr

def Fault.message : Fault → String
  | .malformed => "the text is no pattern"
  | .unknownProperty name => "no property is named " ++ name
  | .outsideText => "the pattern could match what is no text"
  | .tooDeep => "the pattern is nested too deep"
  | .tooLarge => "the pattern is too large"

/-- The flags at a place of a written pattern. -/
structure Flags where
  ignoreCase : Bool := false
  /-- The anchors match at lines. -/
  multiLine : Bool := false
  /-- The dot matches line ends too. -/
  dotAll : Bool := false
  /-- Repetitions are lazy unless marked. -/
  swapGreed : Bool := false
  /-- Classes know all scripts. -/
  unicode : Bool := true
  /-- A carriage return ends lines too. -/
  crlf : Bool := false
  /-- Blanks and comments do not count. -/
  verbose : Bool := false
deriving DecidableEq, Repr

/-- Sets the flag of a letter. -/
def Flags.set? (flags : Flags) (letter : Char) (value : Bool) : Option Flags :=
  match letter with
  | 'i' => some { flags with ignoreCase := value }
  | 'm' => some { flags with multiLine := value }
  | 's' => some { flags with dotAll := value }
  | 'U' => some { flags with swapGreed := value }
  | 'u' => some { flags with unicode := value }
  | 'R' => some { flags with crlf := value }
  | 'x' => some { flags with verbose := value }
  | _ => none

/-- The text after the blanks and comments at its front; a comment ends with its line. -/
def skipComments (inComment : Bool) : List Char → List Char
  | [] => []
  | c :: rest =>
    if inComment then skipComments (c != '\n') rest
    else if Text.isBlank c then skipComments false rest
    else if c = '#' then skipComments true rest
    else c :: rest

/-- The text after what does not count at its front. -/
def Flags.skip (flags : Flags) (text : List Char) : List Char :=
  if flags.verbose then skipComments false text else text

@[simp] theorem Flags.skip_of_not_verbose {flags : Flags} (h : flags.verbose = false)
    (text : List Char) : flags.skip text = text := by
  simp [Flags.skip, h]

end FirmwareBench.Pattern
