import FirmwareBench.Shell.Syntax
import FirmwareBench.Text.Cut
set_option autoImplicit false

/-!
# Reading commands

A text for the shell is read one complete line at a time, so that the lines before a faulty one are
run. Reserved words count only where a command may begin.

## Main definitions

* `SyntaxError`: why a text is no command.
* `readProgramLine`: the commands of the next complete line.
-/

namespace FirmwareBench.Shell

/-- Why a text is no command. -/
inductive SyntaxError where
  | openQuotation
  | unexpected (found : String)
  | badSubstitution
  | tooDeep
deriving DecidableEq, Repr

def SyntaxError.message : SyntaxError → String
  | openQuotation => "Syntax error: Unterminated quoted string"
  | unexpected found => "Syntax error: " ++ found ++ " unexpected"
  | badSubstitution => "Bad substitution"
  | tooDeep => "Syntax error: too deep"

/-- Reads from a text and goes on with the rest of it. -/
abbrev Reader := StateT (List Char) (Except SyntaxError)

/-! ## Characters -/

def endsWord (c : Char) : Bool := " \t\n;&|<>()".toList.contains c

/-- Whether a character means more than itself in a word. -/
def isSpecial (c : Char) : Bool := "\\'\"$\x60".toList.contains c

def beginsName (c : Char) : Bool := c.isAlpha || c == '_'

def continuesName (c : Char) : Bool := c.isAlphanum || c == '_'

def isName (text : List Char) : Bool :=
  match text with
  | [] => false
  | c :: rest => beginsName c && rest.all continuesName

def specialParameters : List Char := "@*#?-$!0123456789".toList

def reservedWords : List String :=
  ["!", "\x7b", "\x7d", "case", "do", "done", "elif", "else", "esac", "fi", "for", "if", "in",
    "then", "until", "while"]

/-! ## Small readers -/

/-- Takes what a text begins with off it. -/
def takeWhile (p : Char → Bool) : Reader (List Char) :=
  modifyGet fun text => (text.takeWhile p, text.dropWhile p)

/-- A text without the blanks and joined lines at its front. -/
def dropBlanks : List Char → List Char
  | ' ' :: rest => dropBlanks rest
  | '\t' :: rest => dropBlanks rest
  | '\\' :: '\n' :: rest => dropBlanks rest
  | text => text

/-- Skips blanks, and a comment after them. -/
def skipBlanks : Reader Unit :=
  modify fun text =>
    match dropBlanks text with
    | '#' :: rest => rest.dropWhile (· != '\n')
    | text => text

def skipLines : Nat → Reader Unit
  | 0 => pure ()
  | fuel + 1 => do
    skipBlanks
    match ← get with
    | '\n' :: rest => set rest; skipLines fuel
    | _ => pure ()

/-- Takes a text off if it comes next. -/
def accept (expected : String) : Reader Bool := do
  match Text.after? expected.toList (← get) with
  | some rest => set rest; return true
  | none => return false

/-- What comes next, as a message shows it. -/
def nextToken (text : List Char) : String :=
  match text with
  | [] => "end of file"
  | '\n' :: _ => "newline"
  | ';' :: ';' :: _ => "\";;\""
  | c :: _ => if endsWord c then "\"" ++ String.ofList [c] ++ "\"" else "word"

/-- Fails because of what comes next. -/
def unexpected {α : Type} : Reader α := do throw (.unexpected (nextToken (← get)))

def reservedWord? (text : List Char) : Option String :=
  let word := text.takeWhile fun c => !endsWord c && !isSpecial c
  let ended := match text.drop word.length with
    | [] => true
    | c :: _ => endsWord c
  if ended then reservedWords.find? (·.toList == word) else none

/-- What comes next and ends a list of commands, if it is one of the given. -/
def closing? (closers : List String) (text : List Char) : Option String :=
  closers.find? fun closer =>
    if reservedWords.contains closer then reservedWord? text == some closer
    else closer.toList.isPrefixOf text

/-- Takes a reserved word or a mark off, which must come next. -/
def expect (closer : String) : Reader Unit := do
  if (closing? [closer] (← get)).isSome then
    let _ ← accept closer
  else unexpected

/-- The text up to a back quotation mark, without the backslashes that only guard. -/
def readBackquoted (guarded : List Char) : List Char → Option (List Char × List Char)
  | [] => none
  | '\x60' :: rest => some ([], rest)
  | '\\' :: c :: rest =>
    let kept := if guarded.contains c then [c] else ['\\', c]
    (readBackquoted guarded rest).map fun (inner, rest) => (kept ++ inner, rest)
  | c :: rest => (readBackquoted guarded rest).map fun (inner, rest) => (c :: inner, rest)

/-- The characters that a backslash guards between back quotation marks. -/
def guardedCharacters (quoted : Bool) : List Char :=
  if quoted then "$\x60\\\"".toList else "$\x60\\".toList

/-- The text up to two closing parentheses that match the opening ones before it. -/
def readArithmetic : Nat → List Char → Option (List Char × List Char)
  | _, [] => none
  | depth, '(' :: rest =>
    (readArithmetic (depth + 1) rest).map fun (inner, rest) => ('(' :: inner, rest)
  | 0, ')' :: ')' :: rest => some ([], rest)
  | depth, ')' :: rest =>
    (readArithmetic (depth - 1) rest).map fun (inner, rest) => (')' :: inner, rest)
  | depth, c :: rest => (readArithmetic depth rest).map fun (inner, rest) => (c :: inner, rest)

def readParameterName : Reader String := do
  match ← get with
  | c :: rest =>
    if beginsName c then return String.ofList (← takeWhile continuesName)
    else if c.isDigit then return String.ofList (← takeWhile Char.isDigit)
    else if specialParameters.contains c then set rest; return String.ofList [c]
    else throw .badSubstitution
  | [] => throw .badSubstitution

/-- The marks after a parameter, each with what it means for the word after it. -/
def useMarks : List (String × (Word → Use)) :=
  [(":-", .fallback .instead true), ("-", .fallback .instead false),
    (":=", .fallback .assign true), ("=", .fallback .assign false),
    (":?", .fallback .complain true), ("?", .fallback .complain false),
    (":+", .fallback .alternative true), ("+", .fallback .alternative false),
    ("%%", .trim true true), ("%", .trim true false),
    ("##", .trim false true), ("#", .trim false false)]

/-! ## Words and commands -/

/-- Whether what comes next is a redirection, perhaps after the number of a stream. -/
def beginsRedirect (text : List Char) : Bool :=
  match text.dropWhile Char.isDigit with
  | '<' :: _ | '>' :: _ => true
  | _ => false

/-- A word that is a text without any quotation. -/
def plainText? (word : Word) : Option (List Char) :=
  word.foldr (fun part rest? =>
    match part, rest? with
    | .text false chars, some rest => some (chars ++ rest)
    | _, _ => none) (some [])

def assignment? (word : Word) : Option (String × Word) :=
  match word with
  | .text false chars :: rest =>
    match Text.cutAt? '=' chars with
    | some (name, value) =>
      if isName name then some (String.ofList name, .text false value :: rest) else none
    | none => none
  | _ => none

def readEscaped (quoted : Bool) : Reader Word := do
  match ← get with
  | '\\' :: '\n' :: rest => set rest; return []
  | '\\' :: c :: rest =>
    set rest
    if !quoted || "$\x60\"\\".toList.contains c then return [.text true [c]]
    else return [.text true ['\\', c]]
  | text => set text.tail; return [.text true ['\\']]

mutual

/-- Reads pieces up to a character that ends them. Inside double quotation marks only few characters
mean more than themselves. -/
def readParts (fuel : Nat) (quoted : Bool) (stops : Char → Bool) : Reader Word := do
  match fuel with
  | 0 => throw .tooDeep
  | fuel + 1 =>
    match ← get with
    | [] => if quoted then throw .openQuotation else return []
    | c :: rest =>
      if stops c then return []
      let part ←
        if c == '\\' then readEscaped quoted
        else if c == '$' then do
          set rest
          readDollar fuel quoted
        else if c == '\x60' then
          match readBackquoted (guardedCharacters quoted) rest with
          | none => throw .openQuotation
          | some (inner, rest) => do
            set inner
            let body ← readList fuel [] true
            set rest
            pure [Part.printed quoted body.1]
        else if c == '\'' && !quoted then
          match Text.cutAt? '\'' rest with
          | none => throw .openQuotation
          | some (inner, rest) => do
            set rest
            pure [Part.text true inner]
        else if c == '"' then do
          set rest
          let inner ← readParts fuel true (· == '"')
          let _ ← accept "\""
          pure (if inner.isEmpty then [Part.text true []] else inner)
        else do
          set rest
          let run ← takeWhile fun c => !stops c && !isSpecial c
          pure [Part.text quoted (c :: run)]
      return part ++ (← readParts fuel quoted stops)

def readDollar (fuel : Nat) (quoted : Bool) : Reader Word := do
  match fuel with
  | 0 => throw .tooDeep
  | fuel + 1 =>
    match ← get with
    | '(' :: '(' :: rest =>
      match readArithmetic 0 rest with
      | none => throw .openQuotation
      | some (inner, rest) => do
        -- An expression is read as if it stood between quotation marks.
        set (inner ++ ['"'])
        let expression ← readParts fuel true (· == '"')
        set rest
        return [.arithmetic quoted expression]
    | '(' :: rest =>
      set rest
      let (body, _) ← readList fuel [")"] true
      return [.printed quoted body]
    | '\x7b' :: rest =>
      set rest
      readBraced fuel quoted
    | c :: rest =>
      if beginsName c then
        return [.parameter quoted (String.ofList (← takeWhile continuesName)) .plain]
      else if specialParameters.contains c then
        set rest
        return [.parameter quoted (String.ofList [c]) .plain]
      else return [.text quoted ['$']]
    | [] => return [.text quoted ['$']]

def readBraced (fuel : Nat) (quoted : Bool) : Reader Word := do
  match fuel with
  | 0 => throw .tooDeep
  | fuel + 1 =>
    let text ← get
    let measured := match text with
      | '#' :: c :: _ => continuesName c || c == '@' || c == '*'
      | _ => false
    if measured then set text.tail
    let name ← readParameterName
    if ← accept "\x7d" then
      return [.parameter quoted name (if measured then .length else .plain)]
    let text ← get
    match useMarks.find? fun (mark, _) => mark.toList.isPrefixOf text with
    | none => throw .badSubstitution
    | some (mark, use) => do
      let _ ← accept mark
      let word ← readParts fuel quoted (· == '\x7d')
      if ← accept "\x7d" then return [.parameter quoted name (use word)]
      else throw .openQuotation

def readWord (fuel : Nat) : Reader Word := do
  match fuel with
  | 0 => throw .tooDeep
  | fuel + 1 =>
    skipBlanks
    match ← get with
    | [] => unexpected
    | c :: _ => if endsWord c then unexpected else readParts fuel false endsWord

def readRedirect (fuel : Nat) : Reader Redirect := do
  match fuel with
  | 0 => throw .tooDeep
  | fuel + 1 =>
    let digits ← takeWhile Char.isDigit
    let stream (standard : Nat) : Nat := if digits.isEmpty then standard
      else digits.foldl (fun n c => 10 * n + (c.toNat - 48)) 0
    let (standard, kind) ←
      if ← accept ">>" then pure (1, Redirection.append)
      else if ← accept ">&" then pure (1, .share)
      else if ← accept ">|" then pure (1, .write)
      else if ← accept ">" then pure (1, .write)
      else if ← accept "<&" then pure (0, .share)
      else if ← accept "<" then pure (0, .read)
      else unexpected
    return .mk (stream standard) kind (← readWord fuel)

def readRedirects (fuel : Nat) : Reader (List Redirect) := do
  match fuel with
  | 0 => throw .tooDeep
  | fuel + 1 =>
    skipBlanks
    if beginsRedirect (← get) then
      let redirect ← readRedirect fuel
      return redirect :: (← readRedirects fuel)
    else return []

/-- Reads assignments, words and redirections in front of what was read of a simple command. -/
def readSimple (fuel : Nat) (assignments : List (String × Word)) (words : List Word)
    (redirects : List Redirect) : Reader Command := do
  match fuel with
  | 0 => throw .tooDeep
  | fuel + 1 =>
    skipBlanks
    let finished : Command := .simple assignments words redirects
    let text ← get
    if beginsRedirect text then
      let redirect ← readRedirect fuel
      readSimple fuel assignments words (redirects ++ [redirect])
    else
      match text with
      | [] => return finished
      | '(' :: rest =>
        match words.map plainText?, dropBlanks rest with
        | [some name], ')' :: rest =>
          if isName name && assignments.isEmpty && redirects.isEmpty then
            set rest
            skipLines fuel
            return .define (String.ofList name) (← readCommand fuel)
          else unexpected
        | _, _ => unexpected
      | c :: _ =>
        if endsWord c then return finished
        else
          let word ← readParts fuel false endsWord
          match if words.isEmpty then assignment? word else none with
          | some assignment => readSimple fuel (assignments ++ [assignment]) words redirects
          | none => readSimple fuel assignments (words ++ [word]) redirects

/-- Reads the patterns of an arm, after the opening parenthesis if there is one. -/
def readPatterns (fuel : Nat) : Reader (List Word) := do
  match fuel with
  | 0 => throw .tooDeep
  | fuel + 1 =>
    let word ← readWord fuel
    skipBlanks
    if ← accept "|" then return word :: (← readPatterns fuel)
    else if ← accept ")" then return [word]
    else unexpected

def readArms (fuel : Nat) : Reader (List (List Word × Command)) := do
  match fuel with
  | 0 => throw .tooDeep
  | fuel + 1 =>
    skipLines (← get).length
    if reservedWord? (← get) == some "esac" then
      let _ ← accept "esac"
      return []
    let _ ← accept "("
    let patterns ← readPatterns fuel
    let (body, closer) ← readList fuel [";;", "esac"] true
    if closer == "esac" then return [(patterns, body)]
    else return (patterns, body) :: (← readArms fuel)

/-- Reads the words of a loop. -/
def readItems (fuel : Nat) : Reader (List Word) := do
  match fuel with
  | 0 => throw .tooDeep
  | fuel + 1 =>
    skipBlanks
    match ← get with
    | ';' :: rest => set rest; return []
    | '\n' :: rest => set rest; return []
    | _ =>
      let word ← readWord fuel
      return word :: (← readItems fuel)

/-- Reads what follows the condition of a branch. -/
def readBranch (fuel : Nat) : Reader Command := do
  match fuel with
  | 0 => throw .tooDeep
  | fuel + 1 =>
    let (condition, _) ← readList fuel ["then"] false
    let (body, closer) ← readList fuel ["elif", "else", "fi"] false
    match closer with
    | "elif" => return .branch condition body (← readBranch fuel)
    | "else" =>
      let (otherwise, _) ← readList fuel ["fi"] false
      return .branch condition body otherwise
    | _ => return .branch condition body .skip

/-- Reads a loop over words, after its first word. -/
def readEach (fuel : Nat) : Reader Command := do
  match fuel with
  | 0 => throw .tooDeep
  | fuel + 1 =>
    skipBlanks
    let name ← takeWhile continuesName
    if !isName name then unexpected
    skipLines (← get).length
    let words? ←
      if reservedWord? (← get) == some "in" then do
        let _ ← accept "in"
        some <$> readItems fuel
      else do
        let _ ← accept ";"
        pure none
    skipLines (← get).length
    expect "do"
    let (body, _) ← readList fuel ["done"] false
    return .each (String.ofList name) words? body

def readCommand (fuel : Nat) : Reader Command := do
  match fuel with
  | 0 => throw .tooDeep
  | fuel + 1 =>
    skipBlanks
    let text ← get
    let compound? ← match reservedWord? text with
      | some word => do
        let _ ← accept word
        match word with
        | "\x7b" => some <$> Prod.fst <$> readList fuel ["\x7d"] false
        | "if" => some <$> readBranch fuel
        | "while" | "until" => do
          let (condition, _) ← readList fuel ["do"] false
          let (body, _) ← readList fuel ["done"] false
          pure (some (.loop (word == "while") condition body))
        | "for" => some <$> readEach fuel
        | "case" => do
          let subject ← readWord fuel
          skipLines (← get).length
          expect "in"
          some <$> Command.choice subject <$> readArms fuel
        | "in" => do
          set text
          pure none
        | _ => throw (.unexpected ("\"" ++ word ++ "\""))
      | none =>
        match text with
        | '(' :: rest => do
          set rest
          some <$> Command.subshell <$> Prod.fst <$> readList fuel [")"] false
        | _ => pure none
    match compound? with
    | some command =>
      let redirects ← readRedirects fuel
      return if redirects.isEmpty then command else .redirected command redirects
    | none =>
      match ← readSimple fuel [] [] [] with
      | .simple [] [] [] => unexpected
      | command => return command

def readPipeline (fuel : Nat) : Reader Command := do
  match fuel with
  | 0 => throw .tooDeep
  | fuel + 1 =>
    skipBlanks
    if reservedWord? (← get) == some "!" then
      let _ ← accept "!"
      return .negation (← readPipeline fuel)
    let first ← readCommand fuel
    skipBlanks
    match ← get with
    | '|' :: '|' :: _ => return first
    | '|' :: rest =>
      set rest
      skipLines rest.length
      return .pipe first (← readPipeline fuel)
    | _ => return first

/-- Reads the commands that go on from one by its status. -/
def readChain (fuel : Nat) (first : Command) : Reader Command := do
  match fuel with
  | 0 => throw .tooDeep
  | fuel + 1 =>
    skipBlanks
    if ← accept "&&" then
      skipLines (← get).length
      readChain fuel (.both first (← readPipeline fuel))
    else if ← accept "||" then
      skipLines (← get).length
      readChain fuel (.either first (← readPipeline fuel))
    else return first

/-- Reads commands up to one of the given ends, and tells which end it was. Without ends they go up
to the end of the text. -/
def readList (fuel : Nat) (closers : List String) (mayBeEmpty : Bool) :
    Reader (Command × String) := do
  match fuel with
  | 0 => throw .tooDeep
  | fuel + 1 =>
    skipLines (← get).length
    let text ← get
    match closing? closers text with
    | some closer =>
      if mayBeEmpty then
        let _ ← accept closer
        return (.skip, closer)
      else throw (.unexpected ("\"" ++ closer ++ "\""))
    | none =>
      if text.isEmpty && closers.isEmpty then return (.skip, "")
      let command ← readChain fuel (← readPipeline fuel)
      skipBlanks
      let text ← get
      let (command, ended) ← match text with
        | ';' :: ';' :: _ => pure (command, false)
        | ';' :: rest => do
          set rest
          pure (command, true)
        | '&' :: rest => do
          set rest
          pure (.background command, true)
        | '\n' :: rest => do
          set rest
          pure (command, true)
        | _ => pure (command, false)
      if !ended && (closing? closers (← get)).isNone && !(text.isEmpty && closers.isEmpty) then
        unexpected
      let (rest, closer) ← readList fuel closers true
      return (match rest with | .skip => command | rest => .sequence command rest, closer)

end

/-! ## Lines -/

/-- Reads the commands of a line, which goes on where a command is not complete. -/
def readLine : Nat → Nat → Reader Command
  | 0, _ => throw .tooDeep
  | count + 1, fuel => do
    let command ← readChain fuel (← readPipeline fuel)
    skipBlanks
    let text ← get
    let command : Command := match text with
      | '&' :: _ => .background command
      | _ => command
    match text with
    | [] => return command
    | '\n' :: rest => set rest; return command
    | ';' :: ';' :: _ => unexpected
    | ';' :: rest | '&' :: rest =>
      match dropBlanks rest with
      | [] => set ([] : List Char); return command
      | '\n' :: rest => set rest; return command
      | '#' :: rest => set (rest.dropWhile (· != '\n')); return command
      | rest =>
        set rest
        return .sequence command (← readLine count fuel)
    | _ => unexpected

/-- The commands of the next complete line with the text after it; none at the end of a text. -/
def readProgramLine (text : List Char) : Except SyntaxError (Option (Command × List Char)) :=
  let fuel := 8 * text.length + 16
  let reader : Reader (Option Command) := do
    skipLines fuel
    if (← get).isEmpty then return none
    some <$> readLine fuel fuel
  match reader.run text with
  | .error error => .error error
  | .ok (none, _) => .ok none
  | .ok (some command, rest) => .ok (some (command, rest))

end FirmwareBench.Shell
