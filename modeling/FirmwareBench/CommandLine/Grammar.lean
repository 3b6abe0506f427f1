set_option autoImplicit false

/-!
# Grammars of command lines

A command line names options and gives operands. An option has a long name and perhaps a letter, and
takes a value or not.

## Main definitions

* `OptionRule`: one option.
* `Grammar`: the options of a program and the number of its operands.
* `Settings`: what a command line says.
* `Refusal`: why a program does not do its work.
-/

namespace FirmwareBench.CommandLine

/-- What follows the name of an option. -/
inductive Taking where
  /-- Nothing. The option is given at most once. -/
  | nothing
  /-- A value. The option is given at most once. -/
  | value
  /-- A value. The option may be given again and again. -/
  | values
deriving DecidableEq, Repr

/-- An option of a command line. -/
structure OptionRule where
  /-- The name, without the dashes before it. -/
  name : String
  /-- The letter that stands for the name. -/
  letter? : Option Char := none
  taking : Taking := .nothing
  /-- Whether a text is a value of the option. -/
  accepts : String → Bool := fun _ => true

/-- The options of a program and the number of its operands. -/
structure Grammar where
  rules : List OptionRule
  operands : Nat := 0
  /-- Whether the program can be asked for its version. -/
  versioned : Bool := false

/-- Why a program does not do its work. -/
inductive Refusal where
  | version
  | help
  /-- The command line does not follow the grammar. -/
  | misuse
deriving DecidableEq, Repr

/-- What a command line says. -/
structure Settings where
  /-- The options with their values, in order; an option that takes none has an empty one. -/
  options : List (String × String) := []
  operands : List String := []
deriving DecidableEq, Repr

namespace Settings

def has (settings : Settings) (name : String) : Bool := settings.options.any (·.1 == name)

def values (settings : Settings) (name : String) : List String :=
  (settings.options.filter (·.1 == name)).map Prod.snd

def value? (settings : Settings) (name : String) : Option String := settings.options.lookup name

/-- The settings with one more option. -/
def take (settings : Settings) (rule : OptionRule) (value : String) : Except Refusal Settings :=
  if rule.taking != .values && settings.has rule.name then .error .misuse
  else if !rule.accepts value then .error .misuse
  else .ok { settings with options := settings.options ++ [(rule.name, value)] }

end Settings

/-- Whether a text may be the name of a file. -/
def isPath (text : String) : Bool := !text.isEmpty

end FirmwareBench.CommandLine
