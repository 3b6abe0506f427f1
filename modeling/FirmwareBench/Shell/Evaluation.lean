import FirmwareBench.Shell.Arithmetic
import FirmwareBench.Shell.Builtin
set_option autoImplicit false

/-!
# Running commands

Commands are run as actions of a shell. Nesting and rounds are limited, so that every run ends.

## Main definitions

* `expandPart`: the value of a piece of a word.
* `runCommand`: runs a command.
* `runText`: runs the commands of a text line by line.
* `runShell`: a whole run of the shell.
-/

namespace FirmwareBench.Shell

open Utf8 (Bytes)

/-! ## Values -/

/-- The atoms of a value; the value of an unquoted piece is cut if cuts are wanted. -/
def valueAtoms (s : Session) (quoted cuts : Bool) (text : String) : List Atom :=
  if quoted then quotedText text.toList
  else if cuts then cutText s.separators text.toList
  else text.toList.map (.char · false)

/-- The atoms of the arguments of the shell, each of them a field of its own. -/
def argumentAtoms (s : Session) (quoted cuts : Bool) : List Atom :=
  [Atom.cut].intercalate (s.arguments.map (valueAtoms s quoted cuts))

/-- The arguments as one text, with the first separator between them. -/
def joinedArguments (s : Session) : String :=
  (String.ofList (s.separators.take 1)).intercalate s.arguments

/-- The atoms of a word that takes the place of a value. -/
def recut (s : Session) (quoted cuts : Bool) (atoms : List Atom) : List Atom :=
  if quoted || !cuts then atoms
  else atoms.flatMap fun
    | .char c false => cutText s.separators [c]
    | atom => [atom]

def numberValue (s : Session) (name : String) : Int :=
  ((s.valueOf? name).bind Utility.readInt?).getD 0

/-- The text that bytes stand for when a command is replaced by what it prints. -/
def printedText (bytes : Bytes) : String :=
  let kept := (bytes.reverse.dropWhile (· == 10)).reverse.filter (· != 0)
  String.ofList (Utf8.decodeLossy kept)

def plainValue (s : Session) (quoted cuts : Bool) (name : String) : Run (List Atom) :=
  if name == "@" then return argumentAtoms s quoted cuts
  else if name == "*" then
    return if quoted then quotedText (joinedArguments s).toList else argumentAtoms s false cuts
  else
    match s.parameter? name with
    | some value => return valueAtoms s quoted cuts value
    | none => do
      if s.setOnly then
        complain (name ++ ": parameter not set")
        endShell 2
      return if quoted then [.presence] else []

/-! ## Ends -/

/-- The status of a command that could not be started, with a message. -/
def refuseStart (name : String) (fault : Fault) : Run Unit := do
  match fault with
  | .notFound =>
    complain (name ++ ": not found")
    setStatus 127
  | fault =>
    complain (name ++ ": " ++ fault.reason)
    setStatus 126

def sessionExit : Except Jump Unit → Session → Exit
  | .error (.ended exit), _ => exit
  | _, s => .code s.status

def inheritedVariables (around : Surroundings) : Dict Variable :=
  ((Dict.ofList (around.environment.toList.filterMap fun (name, value) =>
    if isName name.toList then some (name, (⟨value, true⟩ : Variable)) else none)).insert "IFS"
      ⟨" \t\n", false⟩).insert "PWD" ⟨around.cwd.path.text, true⟩

/-- The rounds and the depth of nesting that a run of the shell may have. -/
def stepLimit : Nat := 1000000

/-! ## Words, commands and shells -/

mutual

def expandPart (fuel : Nat) (cuts : Bool) (part : Part) : Run (List Atom) :=
  match fuel with
  | 0 => endShell 2
  | fuel + 1 => do
    match part with
    | .text true chars => return quotedText chars
    | .text false chars => return chars.map (.char · false)
    | .printed quoted body =>
      let before := (← get).status
      let bytes ← writtenBy (runCommand fuel body)
      modify fun s => { s with status := before, printed := s.status }
      return valueAtoms (← get) quoted cuts (printedText bytes)
    | .arithmetic quoted expression =>
      let text ← expandText fuel expression
      let s ← get
      match Arithmetic.evaluate? (numberValue s) text.toList with
      | some n => return valueAtoms s quoted cuts (toString n)
      | none =>
        complain "arithmetic expression: expecting primary"
        endShell 2
    | .parameter quoted name use =>
      let s ← get
      match use with
      | .plain => plainValue s quoted cuts name
      | .length =>
        let length := if name == "@" || name == "*" then s.arguments.length
          else ((s.parameter? name).getD "").length
        return valueAtoms s quoted cuts (toString length)
      | .trim atEnd longest pattern =>
        let field := wholeField (← expandWord fuel false pattern)
        let value := ((s.parameter? name).getD "").toList
        let kept := if atEnd then trimEnd longest (wildcards field) value
          else trimFront longest (wildcards field) value
        return valueAtoms (← get) quoted cuts (String.ofList kept)
      | .fallback kind empty word =>
        let value? := (s.parameter? name).filter fun value => !(empty && value.isEmpty)
        match kind, value? with
        | .alternative, none => return if quoted then [.presence] else []
        | .alternative, some _ | .instead, none =>
          let atoms ← expandWord fuel cuts word
          let here := if quoted then [Atom.presence] else []
          return here ++ recut (← get) quoted cuts atoms
        | .assign, none =>
          let text ← expandText fuel word
          modify (·.assign name text)
          return valueAtoms (← get) quoted cuts text
        | .complain, none =>
          let text ← expandText fuel word
          complain (name ++ ": " ++ if text.isEmpty then "parameter not set" else text)
          endShell 2
        | _, some _ => plainValue s quoted cuts name

def expandWord (fuel : Nat) (cuts : Bool) (word : Word) : Run (List Atom) :=
  match fuel with
  | 0 => endShell 2
  | fuel + 1 => do
    let atoms ← word.mapM (expandPart fuel cuts)
    return atoms.flatten

def expandText (fuel : Nat) (word : Word) : Run String :=
  match fuel with
  | 0 => endShell 2
  | fuel + 1 => do
    return Field.text (wholeField (← expandWord fuel false word))

def expandFields (fuel : Nat) (words : List Word) : Run (List String) :=
  match fuel with
  | 0 => endShell 2
  | fuel + 1 => do
    let lists ← words.mapM fun word => do
      let atoms ← expandWord fuel true word
      let s ← get
      return (fields atoms).flatMap (filesMatching s.host.tree s.cwd)
    return lists.flatten

/-- Changes streams, up to the first one that cannot be changed. -/
def runRedirects (fuel : Nat) (redirects : List Redirect) : Run Bool :=
  match fuel with
  | 0 => endShell 2
  | fuel + 1 => do
    match redirects with
    | [] => return true
    | .mk stream kind word :: rest =>
      if ← redirect stream kind (← expandText fuel word) then runRedirects fuel rest
      else return false

def runAssignments (fuel : Nat) (exported : Bool) (assignments : List (String × Word)) :
    Run Unit :=
  match fuel with
  | 0 => endShell 2
  | fuel + 1 =>
    assignments.forM fun (name, word) => do
      let text ← expandText fuel word
      modify (·.assign name text exported)

def runProgram (fuel : Nat) (words : List String) : Run Unit :=
  match fuel with
  | 0 => endShell 2
  | fuel + 1 => do
    let s ← get
    match start (runShell fuel) s.surroundings words s.host with
    | (host, .ok exit) => set { s with host, status := exitStatus exit }
    | (host, .error fault) =>
      set { s with host }
      let name := words.headD ""
      match fault, findProgram host.tree s.surroundings name with
      | .badProgram, .ok (path, .file _ _) =>
        -- A file without a first line that names a program is a script of the shell.
        let around := s.surroundings
        let session : Session :=
          { host, cwd := s.cwd, output := s.output, errors := s.errors, id := around.id,
            name := "/bin/sh", arguments := [], bindings := inheritedVariables around }
        let (result, inner) := (runFile fuel path.text words.tail).run session
        set { s with host := inner.host, status := exitStatus (sessionExit result inner) }
      | fault, _ => refuseStart name fault

/-- Runs a command of the shell, a function or a program. -/
def runWords (fuel : Nat) (functions : Bool) (words : List String) : Run Unit :=
  match fuel with
  | 0 => endShell 2
  | fuel + 1 => do
    let s ← get
    match words with
    | [] => pure ()
    | name :: arguments =>
      match name, specialCommands.lookup name, (s.functions.get? name).filter fun _ => functions,
        ordinaryCommands.lookup name with
      | _, some builtin, _, _ => builtin arguments
      | "eval", _, _, _ =>
        setStatus 0
        runText fuel s.line (" ".intercalate arguments).toList
      | "exec", _, _, _ =>
        if !arguments.isEmpty then
          runProgram fuel arguments
          throw (.ended (.code (← get).status))
        setStatus 0
      | ".", _, _, _ =>
        let path := arguments.headD ""
        match s.host.tree.read s.cwd (.ofString path) with
        | .ok content =>
          setStatus 0
          runText fuel 1 (Utf8.decodeLossy content)
        | .error _ =>
          complain (".: cannot open " ++ path ++ ": No such file")
          endShell 2
      | _, _, some body, _ =>
        set { s with arguments }
        let (result, inner) := (runCommand fuel body).run (← get)
        set { inner with arguments := s.arguments }
        match result with
        | .ok () | .error .back => pure ()
        | .error jump => throw jump
      | _, _, _, some builtin => builtin arguments
      | "command", _, _, _ =>
        match arguments with
        | "-v" :: wanted :: _ =>
          let known := (specialCommands.lookup wanted).isSome || (ordinaryCommands.lookup wanted).isSome
          match known, findProgram s.host.tree s.surroundings wanted with
          | true, _ => useUtility Utility.echo "echo" [wanted]
          | false, .ok (path, _) => useUtility Utility.echo "echo" [path.text]
          | false, .error _ => setStatus 127
        | words => runWords fuel false words
      | _, _, _, _ => runProgram fuel words

/-- Runs a command without a structure of its own. -/
def runSimple (fuel : Nat) (assignments : List (String × Word)) (words : List Word)
    (redirects : List Redirect) : Run Unit :=
  match fuel with
  | 0 => endShell 2
  | fuel + 1 => do
    modify ({ · with printed := 0 })
    let words ← expandFields fuel words
    match words with
    | [] =>
      keepingStreams do
        if ← runRedirects fuel redirects then
          runAssignments fuel false assignments
          modify fun s => { s with status := s.printed }
    | ["exec"] =>
      if ← runRedirects fuel redirects then setStatus 0
    | name :: _ =>
      keepingStreams do
        if ← runRedirects fuel redirects then
          let bindings := (← get).bindings
          runAssignments fuel true assignments
          runWords fuel true words
          if !assignments.isEmpty && (specialCommands.lookup name).isNone then
            modify ({ · with bindings })
    checkStatus

def runLoop (fuel : Nat) (wanted : Bool) (condition body : Command) : Run Unit :=
  match fuel with
  | 0 => endShell 2
  | fuel + 1 => do
    let last := (← get).status
    asking (runCommand fuel condition)
    if ((← get).status == 0) == wanted then
      if ← runRound fuel body then runLoop fuel wanted condition body
    else setStatus last

/-- Runs a command once in a loop; the answer tells whether the loop goes on. -/
def runRound (fuel : Nat) (body : Command) : Run Bool :=
  match fuel with
  | 0 => endShell 2
  | fuel + 1 => do
    let (result, s) := (runCommand fuel body).run (← get)
    set s
    match result with
    | .ok () => return true
    | .error (.leave loops) => if loops ≤ 1 then return false else throw (.leave (loops - 1))
    | .error (.again loops) => if loops ≤ 1 then return true else throw (.again (loops - 1))
    | .error jump => throw jump

def runEach (fuel : Nat) (name : String) (body : Command) (texts : List String) : Run Unit :=
  match fuel with
  | 0 => endShell 2
  | fuel + 1 => do
    match texts with
    | [] => pure ()
    | text :: rest =>
      modify (·.assign name text)
      if ← runRound fuel body then runEach fuel name body rest

/-- Runs the command of the first arm with a pattern that matches a text. -/
def runChoice (fuel : Nat) (text : String) (arms : List (List Word × Command)) : Run Unit :=
  match fuel with
  | 0 => endShell 2
  | fuel + 1 => do
    match arms with
    | [] => setStatus 0
    | (patterns, body) :: rest =>
      let found ← patterns.anyM fun pattern => do
        let field := wholeField (← expandWord fuel false pattern)
        return matchesText (wildcards field) text.toList
      if found then
        setStatus 0
        runCommand fuel body
      else runChoice fuel text rest

def runCommand (fuel : Nat) (command : Command) : Run Unit :=
  match fuel with
  | 0 => endShell 2
  | fuel + 1 => do
    match command with
    | .skip => setStatus 0
    | .simple assignments words redirects => runSimple fuel assignments words redirects
    | .pipe first second =>
      let bytes ← writtenBy (runCommand fuel first)
      reading bytes (inSubshell (runCommand fuel second))
      checkStatus
    | .negation body =>
      asking (runCommand fuel body)
      setStatus (if (← get).status == 0 then 1 else 0)
    | .both first second =>
      asking (runCommand fuel first)
      if (← get).status == 0 then runCommand fuel second
    | .either first second =>
      asking (runCommand fuel first)
      if (← get).status != 0 then runCommand fuel second
    | .sequence first second =>
      runCommand fuel first
      runCommand fuel second
    | .background body =>
      reading [] (inSubshell (runCommand fuel body))
      setStatus 0
    | .subshell body =>
      inSubshell (runCommand fuel body)
      checkStatus
    | .redirected body redirects =>
      keepingStreams do
        if ← runRedirects fuel redirects then runCommand fuel body
    | .branch condition body otherwise =>
      asking (runCommand fuel condition)
      if (← get).status == 0 then runCommand fuel body else runCommand fuel otherwise
    | .loop wanted condition body =>
      setStatus 0
      runLoop fuel wanted condition body
    | .each name words? body =>
      let texts ← match words? with
        | some words => expandFields fuel words
        | none => return ← runEach fuel name body (← get).arguments
      setStatus 0
      runEach fuel name body texts
    | .choice word arms => runChoice fuel (← expandText fuel word) arms
    | .define name body =>
      modify fun s => { s with functions := s.functions.insert name body, status := 0 }

/-- Runs the commands of a text line by line, from the line of a number on. -/
def runText (fuel : Nat) (line : Nat) (text : List Char) : Run Unit :=
  match fuel with
  | 0 => endShell 2
  | fuel + 1 => do
    let skipped := (text.takeWhile fun c => c == '\n' || c == ' ' || c == '\t').count '\n'
    modify ({ · with line := line + skipped })
    match readProgramLine text with
    | .error error =>
      complain error.message
      endShell 2
    | .ok none => pure ()
    | .ok (some (command, rest)) =>
      runCommand fuel command
      runText fuel (line + (text.take (text.length - rest.length)).count '\n') rest

def runFile (fuel : Nat) (file : String) (arguments : List String) : Run Unit :=
  match fuel with
  | 0 => endShell 2
  | fuel + 1 => do
    let s ← get
    match s.host.tree.read s.cwd (.ofString file) with
    | .ok content =>
      modify ({ · with name := file, arguments })
      runText fuel 1 (Utf8.decodeLossy content)
    | .error fault =>
      modify ({ · with line := 0 })
      complain (openingComplaint .read file fault)
      endShell 2

/-- Runs a shell with its arguments: flags, then a text, a file, or nothing if the commands are in
the standard input. -/
def runShell (fuel : Nat) (around : Surroundings) (name : String) (words : List String)
    (host : Host) : Host × Exit :=
  match fuel with
  | 0 => (host, .code 2)
  | fuel + 1 =>
    let (flags, operands) := Utility.readFlags words
    let session : Session :=
      { host, cwd := around.cwd, output := around.output, errors := around.errors, id := around.id,
        name, arguments := operands, bindings := inheritedVariables around,
        strict := flags.contains 'e', setOnly := flags.contains 'u' }
    let action : Run Unit := do
      if flags.contains 'c' then
        match operands with
        | [] =>
          complain "-c requires an argument"
          endShell 2
        | text :: rest =>
          modify ({ · with name := rest.headD name, arguments := rest.tail })
          runText fuel 1 text.toList
      else
        match operands with
        | [] =>
          modify fun s => { s with host := { s.host with input := [] } }
          runText fuel 1 (Utf8.decodeLossy host.input)
        | file :: rest => runFile fuel file rest
    let (result, s) := action.run session
    let exit := sessionExit result s
    if s.atEnd.isEmpty then (s.host, exit)
    else
      let (result, s) := (runText fuel 1 s.atEnd).run { s with atEnd := [], status := exitStatus exit }
      match result with
      | .error (.ended exit) => (s.host, exit)
      | _ => (s.host, exit)

end

end FirmwareBench.Shell
