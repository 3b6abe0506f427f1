import FirmwareBench.CommandLine.Grammar
import FirmwareBench.Dict
import FirmwareBench.Text.Cut
set_option autoImplicit false

/-!
# Reading command lines

A command line is read from left to right, and the first thing that is wrong with it, or the first
question in it, decides. A word with two dashes names an option, and its value follows an equals sign
or is the next word. A word with one dash holds letters; what follows a letter that takes a value is
that value. After a word of two dashes alone all words are operands.

## Main definitions

* `Grammar.read`: what a command line says.
* `Settings.valueOr`: the value of an option that a variable of the environment may give.
* `choose`: the command that the first word names.
-/

namespace FirmwareBench.CommandLine

/-- Whether a word can be no value because it looks like an option. -/
def looksLikeOption (word : String) : Bool := word.startsWith "-" && word != "-"

namespace Grammar

def byName? (g : Grammar) (name : List Char) : Option OptionRule :=
  g.rules.find? (·.name.toList == name)

def byLetter? (g : Grammar) (letter : Char) : Option OptionRule :=
  g.rules.find? (·.letter? == some letter)

/-- What comes of the name of no option. -/
def question (g : Grammar) (name : List Char) : Refusal :=
  if name == "help".toList then .help
  else if g.versioned && name == "version".toList then .version
  else .misuse

/-- What comes of a letter that stands for no option. -/
def letterQuestion (g : Grammar) (letter : Char) : Refusal :=
  if letter == 'h' then .help else if g.versioned && letter == 'V' then .version else .misuse

/-- Reads the letters of a word. An option is left over if the next word is its value. -/
def readLetters (g : Grammar) :
    List Char → Settings → Except Refusal (Settings × Option OptionRule)
  | [], settings => .ok (settings, none)
  | letter :: rest, settings =>
    match g.byLetter? letter with
    | none => .error (g.letterQuestion letter)
    | some rule =>
      if rule.taking == .nothing then
        match settings.take rule "" with
        | .ok settings => readLetters g rest settings
        | .error refusal => .error refusal
      else
        match rest with
        | [] => .ok (settings, some rule)
        | '=' :: value => (settings.take rule (String.ofList value)).map (·, none)
        | value => (settings.take rule (String.ofList value)).map (·, none)

/-- Reads what stands after two dashes. An option is left over if the next word is its value. -/
def readName (g : Grammar) (text : List Char) (settings : Settings) :
    Except Refusal (Settings × Option OptionRule) :=
  match Text.cutAt? '=' text with
  | none =>
    match g.byName? text with
    | none => .error (g.question text)
    | some rule =>
      if rule.taking == .nothing then (settings.take rule "").map (·, none)
      else .ok (settings, some rule)
  | some (name, value) =>
    match g.byName? name with
    | none => .error .misuse
    | some rule =>
      if rule.taking == .nothing then .error .misuse
      else (settings.take rule (String.ofList value)).map (·, none)

def takeOperands (g : Grammar) (words : List String) (settings : Settings) :
    Except Refusal Settings :=
  if settings.operands.length + words.length ≤ g.operands then
    .ok { settings with operands := settings.operands ++ words }
  else .error .misuse

/-- Reads a word. An option is left over if the next word is its value. -/
def readWord (g : Grammar) (word : String) (settings : Settings) :
    Except Refusal (Settings × Option OptionRule) :=
  match word.toList with
  | '-' :: '-' :: text => g.readName text settings
  | '-' :: letter :: rest => g.readLetters (letter :: rest) settings
  | _ => (g.takeOperands [word] settings).map (·, none)

/-- Reads words that follow others. -/
def readFrom (g : Grammar) : List String → Settings → Except Refusal Settings
  | [], settings => .ok settings
  | word :: rest, settings =>
    if word == "--" then g.takeOperands rest settings
    else
      match g.readWord word settings with
      | .error refusal => .error refusal
      | .ok (settings, none) => readFrom g rest settings
      | .ok (settings, some rule) =>
        match rest with
        | [] => .error .misuse
        | value :: rest =>
          if looksLikeOption value then .error .misuse
          else
            match settings.take rule value with
            | .ok settings => readFrom g rest settings
            | .error refusal => .error refusal

/-- What a command line says. -/
def read (g : Grammar) (words : List String) : Except Refusal Settings :=
  match g.readFrom words {} with
  | .error refusal => .error refusal
  | .ok settings =>
    if settings.operands.length == g.operands then .ok settings else .error .misuse

end Grammar

/-- The value of an option; if it is not given, that of a variable of the environment, which must be
a value of the option, else the fallback. -/
def Settings.valueOr (settings : Settings) (environment : Dict String) (rule : OptionRule)
    (variableName fallback : String) : Except Refusal String :=
  match settings.value? rule.name, environment.get? variableName with
  | some value, _ => .ok value
  | none, some value => if rule.accepts value then .ok value else .error .misuse
  | none, none => .ok fallback

/-- The command that the first word names, with the words after it. -/
def choose {α : Type} (versioned : Bool) (commands : List (String × α)) (words : List String) :
    Except Refusal (α × List String) :=
  match words with
  | [] => .error .misuse
  | word :: rest =>
    match commands.lookup word with
    | some command => .ok (command, rest)
    | none =>
      match (Grammar.mk [] 0 versioned).readWord word {} with
      | .error refusal => .error refusal
      | .ok _ => .error .misuse

end FirmwareBench.CommandLine
