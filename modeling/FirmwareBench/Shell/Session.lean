import FirmwareBench.Shell.Field
import FirmwareBench.Shell.Reader
import FirmwareBench.Shell.Start
set_option autoImplicit false

/-!
# Sessions of the shell

What a running shell knows, and the actions that commands are made of. An action may jump: out of a
loop, back from a function, or to the end of the shell.

## Main definitions

* `Session`: the state of a shell.
* `Jump`: where an action goes on other than behind itself.
* `Run`: actions.
* `inSubshell`, `keepingStreams`: actions whose changes do not all last.
-/

namespace FirmwareBench.Shell

open Utf8 (Bytes)

/-- A variable of the shell. -/
structure Variable where
  value : String
  /-- Whether it is passed on to programs. -/
  exported : Bool := false
deriving DecidableEq, Repr

/-- The state of a shell. -/
structure Session where
  host : Host
  cwd : Place
  output : Target
  errors : Target
  /-- Standard inputs that were put aside, last one first. -/
  inputs : List Bytes := []
  id : Nat
  /-- The name the shell was called by. -/
  name : String
  arguments : List String
  /-- The variables. -/
  bindings : Dict Variable
  functions : Dict Command := .empty
  /-- The status of the last command. -/
  status : Nat := 0
  /-- The status of the last command that what it printed was put in place of. -/
  printed : Nat := 0
  /-- The commands that are run when the shell ends. -/
  atEnd : List Char := []
  /-- Whether a failing command ends the shell. -/
  strict : Bool := false
  /-- Whether variables must be set. -/
  setOnly : Bool := false
  /-- Whether the status of the command being run is asked for. -/
  tested : Bool := false
  line : Nat := 1

/-- Where an action goes on other than behind itself. -/
inductive Jump where
  /-- Behind the loops around it. -/
  | leave (loops : Nat)
  /-- At the next round of a loop around it. -/
  | again (loops : Nat)
  | back
  | ended (exit : Exit)
deriving DecidableEq, Repr

/-- An action of a shell. -/
abbrev Run := ExceptT Jump (StateM Session)

namespace Session

/-- The variables that are passed on to programs. -/
def environment (s : Session) : Dict String :=
  .ofList (s.bindings.toList.filterMap fun (name, v) =>
    if v.exported then some (name, v.value) else none)

/-- What programs get from the shell. -/
def surroundings (s : Session) : Surroundings :=
  { cwd := s.cwd, environment := s.environment, output := s.output, errors := s.errors,
    id := s.id + 1 }

def valueOf? (s : Session) (name : String) : Option String :=
  (s.bindings.get? name).map Variable.value

/-- The characters that cut values. -/
def separators (s : Session) : List Char := ((s.valueOf? "IFS").getD " \t\n").toList

def parameter? (s : Session) (name : String) : Option String :=
  match name with
  | "#" => some (toString s.arguments.length)
  | "?" => some (toString s.status)
  | "$" => some (toString s.id)
  | "-" => some (if s.strict then "e" else "")
  | "!" => none
  | "@" | "*" => if s.arguments.isEmpty then none else some (" ".intercalate s.arguments)
  | _ =>
    match Utility.readInt? name with
    | some 0 => some s.name
    | some n => s.arguments[n.toNat - 1]?
    | none => s.valueOf? name

def assign (s : Session) (name value : String) (exported : Bool := false) : Session :=
  let before := (s.bindings.get? name).any Variable.exported
  { s with bindings := s.bindings.insert name ⟨value, exported || before⟩ }

end Session

/-! ## Actions -/

def setStatus (status : Nat) : Run Unit := modify ({ · with status })

def endShell {α : Type} (status : Nat) : Run α := throw (.ended (.code (status % 256)))

/-- Writes a message of the shell to the standard error output. -/
def complain (message : String) : Run Unit :=
  modify fun s =>
    let line := s.name ++ ": " ++ toString s.line ++ ": " ++ message
    { s with host := s.surroundings.complain line s.host }

def useUtility (utility : Utility) (name : String) (words : List String) : Run Unit :=
  modify fun s =>
    let voice := s.name ++ ": " ++ toString s.line ++ ": "
    let (host, status) := utility { s.surroundings with id := s.id, voice } name words s.host
    { s with host, status }

def exitStatus : Exit → Nat
  | .code n => n
  | .signal n => 128 + n

/-- Does something in a shell of its own, of which only the changes of the host and the status last.
A signal ends the outer shell too. -/
def inSubshell (action : Run Unit) : Run Unit := do
  let s ← get
  let (result, inner) := action.run s
  let outer := { s with host := inner.host }
  match result with
  | .error (.ended (.signal n)) =>
    set outer
    throw (.ended (.signal n))
  | .error (.ended (.code n)) => set { outer with status := n }
  | _ => set { outer with status := inner.status }

/-- Does something, and puts the streams back as they were before. -/
def keepingStreams (action : Run Unit) : Run Unit := do
  let s ← get
  let (result, inner) := action.run s
  let aside := inner.inputs.take (inner.inputs.length - s.inputs.length)
  let input := aside.getLast?.getD inner.host.input
  set { inner with
    output := s.output, errors := s.errors, inputs := s.inputs, host := { inner.host with input } }
  match result with
  | .ok () => pure ()
  | .error jump => throw jump

/-- Does something while the standard output goes into a pipe; gives what was written to it. -/
def writtenBy (action : Run Unit) : Run Bytes := do
  let s ← get
  let index := s.host.pipes.length
  set { s with output := .pipe index, host := { s.host with pipes := s.host.pipes ++ [[]] } }
  let (result, inner) := (inSubshell action).run (← get)
  let written := inner.host.pipes[index]?.getD []
  set { inner with
    output := s.output, host := { inner.host with pipes := inner.host.pipes.take index } }
  match result with
  | .ok () => return written
  | .error jump => throw jump

/-- Does something with a standard input of its own. -/
def reading (input : Bytes) (action : Run Unit) : Run Unit :=
  keepingStreams do
    modify fun s =>
      { s with inputs := s.host.input :: s.inputs, host := { s.host with input } }
    action

/-- Does something whose status is asked for. -/
def asking (action : Run Unit) : Run Unit := do
  let s ← get
  let (result, inner) := action.run { s with tested := true }
  set { inner with tested := s.tested }
  match result with
  | .ok () => pure ()
  | .error jump => throw jump

/-- Ends a strict shell if the last command failed and nothing asks for its status. -/
def checkStatus : Run Unit := do
  let s ← get
  if s.strict && !s.tested && s.status != 0 then endShell s.status

/-! ## Streams -/

def openingComplaint (kind : Redirection) (path : String) (fault : Fault) : String :=
  let making := kind == .write || kind == .append
  let reason := match fault with
    | .notFound => if making then "Directory nonexistent" else "No such file"
    | fault => fault.reason
  (if making then "cannot create " else "cannot open ") ++ path ++ ": " ++ reason

def setTarget (stream : Nat) (target : Target) : Run Unit :=
  modify fun s =>
    match stream with
    | 1 => { s with output := target }
    | 2 => { s with errors := target }
    | _ => s

/-- The stream of a file that stands for one. -/
def streamFile? (path : String) : Option String :=
  [("/dev/stdout", "1"), ("/dev/stderr", "2")].lookup path

/-- Changes a stream; the answer tells whether it could be done. -/
def redirect (stream : Nat) (kind : Redirection) (text : String) : Run Bool := do
  let s ← get
  let path := Path.ofString text
  let refuse (fault : Fault) : Run Bool := do
    complain (openingComplaint kind text fault)
    setStatus 2
    return false
  match kind, streamFile? text with
  | .share, _ | .write, some _ | .append, some _ =>
    match (streamFile? text).getD text with
    | "1" => setTarget stream s.output
    | "2" => setTarget stream s.errors
    | "-" =>
      if stream == 0 then
        set { s with inputs := s.host.input :: s.inputs, host := { s.host with input := [] } }
      else setTarget stream .nothing
    | "0" => pure ()
    | _ =>
      complain (text ++ ": Bad file descriptor")
      setStatus 2
      return false
    return true
  | .read, _ =>
    match s.host.tree.resolve s.cwd path with
    | .error fault => refuse fault
    | .ok (_, node) =>
      if !s.host.tree.permits .read node then refuse .denied
      else
        set { s with inputs := s.host.input :: s.inputs, host := { s.host with input := node.content } }
        return true
  | .write, none | .append, none =>
    let change (content : Bytes) : Bytes := if kind == .append then content else []
    match s.host.tree.revise s.cwd path change with
    | .error fault => refuse fault
    | .ok tree =>
      set { s with host := { s.host with tree } }
      match tree.resolve s.cwd path with
      | .ok (place, .file _ _) => setTarget stream (.file place)
      | _ => setTarget stream .nothing
      return true

end FirmwareBench.Shell
