import FirmwareBench.Matrix.Run
import FirmwareBench.Shell.Evaluation
set_option autoImplicit false

/-!
# Running programs and commands from outside

Programs are run with a list of arguments, commands by a shell. A command gets nothing to read; what
it writes goes on to the streams of the caller, is kept for the caller, or is dropped.

## Main definitions

* `launcher`: runs programs.
* `commandShell`: runs commands in a directory.
* `CommandOptions.run`: runs a command, and keeps what it writes.
-/

namespace FirmwareBench.Shell

open Utf8 (Bytes)

/-- Whether a text can be handed to a program. -/
def isPassable (text : String) : Bool := !text.toList.contains (Char.ofNat 0)

/-- Runs a program with its arguments. -/
def launch (around : Surroundings) (words : List String) (host : Host) :
    Host × Except Fault Exit :=
  if words.all isPassable then start (runShell stepLimit) around words host
  else (host, .error .nulInArgument)

/-- Runs programs in a directory with the variables of an environment. -/
def launcher (cwd : Place) (environment : Dict String) : Launcher Host :=
  fun host words => launch { cwd, environment } words host

/-- Has a shell run a command that gets nothing to read. -/
def runInShell (around : Surroundings) (command : String) (host : Host) :
    Host × Except Fault Exit :=
  let (after, result) := launch around ["sh", "-c", command] { host with input := [] }
  ({ after with input := host.input }, result)

/-- Has a shell run commands in the directory of a path. -/
def commandShell (cwd : Place) (environment : Dict String) (dir : Path) : Shell Host :=
  fun host command =>
    match host.tree.resolve cwd dir with
    | .error fault => (host, .error fault)
    | .ok (place, .directory) => runInShell { cwd := place, environment } command host
    | .ok _ => (host, .error .notDirectory)

/-! ## Streams of commands -/

/-- What becomes of what a command writes. -/
inductive StreamMode where
  | inherit
  | keep
  | drop
deriving DecidableEq, Repr

/-- How a command is run. -/
structure CommandOptions where
  output : StreamMode := .inherit
  errors : StreamMode := .inherit
  /-- The working directory, if it is not that of the caller. -/
  cwd? : Option Path := none
  added : List (String × String) := []
deriving DecidableEq, Repr

/-- What was kept of what a command wrote. -/
structure Written where
  output : String
  errors : String
deriving DecidableEq, Repr

def StreamMode.target (mode : StreamMode) (own kept : Target) : Target :=
  match mode with
  | .inherit => own
  | .keep => kept
  | .drop => .nothing

namespace CommandOptions

/-- The place of the working directory. -/
def place (options : CommandOptions) (cwd : Place) (tree : FileTree) : Except Fault Place :=
  match options.cwd? with
  | none => .ok cwd
  | some path =>
    match tree.resolve cwd path with
    | .ok (place, .directory) => .ok place
    | .ok _ => .error .notDirectory
    | .error fault => .error fault

/-- Whether all variables can be handed to a program. -/
def arePassable (options : CommandOptions) : Bool :=
  options.added.all fun (name, value) => isPassable name && isPassable value

def runAt (options : CommandOptions) (place : Place) (environment : Dict String)
    (command : String) (host : Host) : Host × Except Fault Exit × Written :=
  let index := host.pipes.length
  let around : Surroundings :=
    { cwd := place, environment := environment.insertAll options.added
      output := options.output.target .output (.pipe index)
      errors := options.errors.target .errors (.pipe (index + 1)) }
  let (after, result) := runInShell around command { host with pipes := host.pipes ++ [[], []] }
  let kept (i : Nat) : String := String.ofList (Utf8.decodeLossy (after.pipes[i]?.getD []))
  ({ after with pipes := host.pipes }, result, ⟨kept index, kept (index + 1)⟩)

/-- Runs a command, which must end well. -/
def run (options : CommandOptions) (cwd : Place) (environment : Dict String) (command : String)
    (host : Host) : Host × Except ShellError Written :=
  match options.place cwd host.tree with
  | .error fault => (host, .error (.notStarted command fault))
  | .ok place =>
    if !options.arePassable then (host, .error (.notStarted command .nulInArgument))
    else
      let (host, result, written) := options.runAt place environment command host
      (host, (ShellError.check command result).map fun () => written)

end CommandOptions

end FirmwareBench.Shell
