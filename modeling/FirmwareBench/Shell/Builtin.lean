import FirmwareBench.Shell.Session
set_option autoImplicit false

/-!
# Commands of the shell itself

The commands that change the shell, or jump, and those the shell has in place of programs.

## Main definitions

* `specialCommands`: commands that no function can replace.
* `ordinaryCommands`: the other commands that need no program.
-/

namespace FirmwareBench.Shell

open Utf8 (Bytes)

/-- A command of the shell with its arguments. -/
abbrev Builtin := List String → Run Unit

/-! ## Jumps -/

/-- The number that an argument gives, with a status for an argument that is none. -/
def countArgument (name : String) (fallback : Nat) : List String → Run Nat
  | [] => pure fallback
  | word :: _ =>
    match Utility.readInt? word with
    | some n => if n < 0 then refuse word else pure n.toNat
    | none => refuse word
where
  /-- Ends the shell because of an argument. -/
  refuse (word : String) : Run Nat := do
    complain (name ++ ": Illegal number: " ++ word)
    endShell 2

def exitCommand : Builtin := fun words => do
  endShell (← countArgument "exit" (← get).status words)

def returnCommand : Builtin := fun words => do
  setStatus (← countArgument "return" (← get).status words)
  throw .back

def breakCommand : Builtin := fun words => do
  setStatus 0
  throw (.leave (← countArgument "break" 1 words))

def continueCommand : Builtin := fun words => do
  setStatus 0
  throw (.again (← countArgument "continue" 1 words))

/-! ## Variables and arguments -/

/-- Passes variables on to programs, and sets them where a word has a value. -/
def exportCommand : Builtin := fun words => do
  modify fun s =>
    words.foldl (fun s word =>
      match Text.cutAt? '=' word.toList with
      | some (name, value) => s.assign (String.ofList name) (String.ofList value) true
      | none =>
        match s.valueOf? word with
        | some value => s.assign word value true
        | none => s) s
  setStatus 0

/-- Sets variables where a word has a value. -/
def assignCommand : Builtin := fun words => do
  modify fun s =>
    words.foldl (fun s word =>
      match Text.cutAt? '=' word.toList with
      | some (name, value) => s.assign (String.ofList name) (String.ofList value)
      | none => s) s
  setStatus 0

def unsetCommand : Builtin := fun words => do
  modify fun s =>
    words.foldl (fun s word =>
      { s with bindings := s.bindings.erase word, functions := s.functions.erase word }) s
  setStatus 0

def shiftCommand : Builtin := fun words => do
  let count ← countArgument "shift" 1 words
  let s ← get
  if count > s.arguments.length then
    complain "shift: can't shift that many"
    endShell 2
  set { s with arguments := s.arguments.drop count, status := 0 }

def setFlag (letter : Char) (on : Bool) : Run Unit :=
  modify fun s =>
    match letter with
    | 'e' => { s with strict := on }
    | 'u' => { s with setOnly := on }
    | _ => s

/-- Sets flags, and the arguments if words are left. -/
def setOptions : Builtin
  | [] => pure ()
  | "--" :: words => modify ({ · with arguments := words })
  | word :: rest => do
    match word.toList with
    | '-' :: letter :: letters =>
      (letter :: letters).forM (setFlag · true)
      setOptions rest
    | '+' :: letter :: letters =>
      (letter :: letters).forM (setFlag · false)
      setOptions rest
    | _ => modify ({ · with arguments := word :: rest })

def setCommand : Builtin := fun words => do
  setOptions words
  setStatus 0

/-! ## The working directory -/

/-- The names on the way of a path, with those that dots take back left out. -/
def plainNames (names : List String) : List String :=
  names.foldl (fun names name =>
    if name.isEmpty || name == "." then names
    else if name == ".." then names.dropLast
    else names ++ [name]) []

def cdCommand : Builtin := fun words => do
  let s ← get
  let here := (s.valueOf? "PWD").getD s.cwd.path.text
  let (goal, shown) := match words.filter (fun word => word != "--" && word != "-P" && word != "-L") with
    | [] => ((s.valueOf? "HOME").getD "", false)
    | "-" :: _ => ((s.valueOf? "OLDPWD").getD here, true)
    | goal :: _ => (goal, false)
  let path := (Path.ofString here).join (.ofString goal)
  let text := "/" ++ "/".intercalate (plainNames (FileTree.names path))
  match s.host.tree.resolve s.cwd (.ofString text) with
  | .ok (place, .directory) =>
    set ((({ s with cwd := place }).assign "OLDPWD" here).assign "PWD" text true)
    if shown then modify fun s => { s with host := s.surroundings.say (text ++ "\n") s.host }
    setStatus 0
  | _ =>
    complain ("cd: can't cd to " ++ goal)
    setStatus 2

def pwdCommand : Builtin := fun words => do
  let s ← get
  let text := if words.contains "-P" then s.cwd.path.text
    else (s.valueOf? "PWD").getD s.cwd.path.text
  set { s with host := s.surroundings.say (text ++ "\n") s.host, status := 0 }

/-! ## Input and signals -/

/-- The values for some names: a field for each, and for the last one all that is left. -/
def shareFields (separators : List Char) : List String → List Char → List (String × String)
  | [], _ => []
  | [name], text =>
    let isBlank (c : Char) : Bool := separators.contains c && c.isWhitespace
    [(name, String.ofList (((text.dropWhile isBlank).reverse.dropWhile isBlank).reverse))]
  | name :: names, text =>
    let isBlank (c : Char) : Bool := separators.contains c && c.isWhitespace
    let text := text.dropWhile isBlank
    let field := text.takeWhile fun c => !separators.contains c
    let rest := (text.drop field.length).dropWhile isBlank
    let rest := match rest with
      | c :: later => if separators.contains c then later else rest
      | [] => []
    (name, String.ofList field) :: shareFields separators names rest

/-- Reads a line into variables. -/
def inputCommand : Builtin := fun words => do
  let s ← get
  let names := words.filter fun word => !word.startsWith "-"
  let line := s.host.input.takeWhile (· != 10)
  let rest := s.host.input.drop line.length
  let values := shareFields s.separators names (Utf8.decodeLossy line)
  let s := values.foldl (fun s (name, value) => s.assign name value) s
  set { s with
    host := { s.host with input := rest.drop 1 }, status := if rest.isEmpty then 1 else 0 }

/-- Keeps commands for the end of the shell. -/
def trapCommand : Builtin := fun words => do
  match words with
  | text :: events =>
    if events.contains "EXIT" || events.contains "0" then
      modify ({ · with atEnd := if text == "-" then [] else text.toList })
  | [] => pure ()
  setStatus 0

def signals : List (String × Nat) :=
  [("HUP", 1), ("INT", 2), ("QUIT", 3), ("ILL", 4), ("TRAP", 5), ("ABRT", 6), ("BUS", 7),
    ("FPE", 8), ("KILL", 9), ("USR1", 10), ("SEGV", 11), ("USR2", 12), ("PIPE", 13), ("ALRM", 14),
    ("TERM", 15)]

/-- The number of a signal that is given by its name or its number. -/
def signalNumber? (text : String) : Option Nat :=
  let name := if text.startsWith "SIG" then (text.drop 3).toString else text
  (signals.lookup name).or ((Utility.readInt? text).map Int.toNat)

/-- Signals that do nothing to a program that does not ask for them. -/
def harmlessSignals : List Nat := [0, 17, 18, 23, 28]

/-- Sends a signal, which only the shell itself gets. -/
def killCommand : Builtin := fun words => do
  let (signal?, targets) := match words with
    | "-s" :: name :: rest => (signalNumber? name, rest)
    | word :: rest =>
      match word.toList with
      | '-' :: '-' :: _ => (some 15, rest)
      | '-' :: name => (signalNumber? (String.ofList name), rest)
      | _ => (some 15, word :: rest)
    | [] => (none, [])
  let s ← get
  match signal?, targets with
  | some signal, target :: _ =>
    if target == toString s.id then
      setStatus 0
      if !harmlessSignals.contains signal then throw (.ended (.signal signal))
    else
      complain "kill: No such process"
      setStatus 1
  | _, _ =>
    complain "kill: bad signal or process"
    setStatus 2

/-! ## Tables -/

/-- Does nothing, and ends with a status. -/
def nothing (status : Nat) : Builtin := fun _ => setStatus status

/-- The commands that no function can replace. -/
def specialCommands : List (String × Builtin) :=
  [(":", nothing 0), ("break", breakCommand), ("continue", continueCommand), ("exit", exitCommand),
    ("export", exportCommand), ("readonly", assignCommand), ("return", returnCommand),
    ("set", setCommand), ("shift", shiftCommand), ("times", nothing 0), ("trap", trapCommand),
    ("unset", unsetCommand)]

/-- The other commands that need no program. -/
def ordinaryCommands : List (String × Builtin) :=
  [("[", useUtility Utility.test "["), ("cd", cdCommand), ("echo", useUtility Utility.echo "echo"),
    ("false", nothing 1), ("kill", killCommand), ("local", assignCommand),
    ("printf", useUtility Utility.printf "printf"), ("pwd", pwdCommand), ("read", inputCommand),
    ("test", useUtility Utility.test "test"), ("true", nothing 0), ("umask", nothing 0),
    ("wait", nothing 0)]

end FirmwareBench.Shell
