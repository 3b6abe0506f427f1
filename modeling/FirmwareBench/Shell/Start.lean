import FirmwareBench.Exit
import FirmwareBench.Shell.Utility.Catalog
import FirmwareBench.Text.Blank
import FirmwareBench.Toolchain.Detection
set_option autoImplicit false

/-!
# Starting programs

A program is found by its path, or by its name in the directories of the search path. A file that is
a script names the program that runs it.

## Main definitions

* `findProgram`: what a name stands for.
* `scriptProgram?`: the program that runs a script.
* `start`: runs a program; how a shell runs is left open.
-/

namespace FirmwareBench.Shell

open Utf8 (Bytes)

/-- How a shell is run with its arguments. -/
abbrev ShellRunner := Surroundings → String → List String → Host → Host × Exit

/-! ## Finding programs -/

/-- What can be run under a path. -/
def runnable (tree : FileTree) (cwd : Place) (path : Path) : Except Fault Node :=
  match tree.resolve cwd path with
  | .error fault => .error fault
  | .ok (_, node) => if node.isFile && tree.permits .execute node then .ok node else .error .denied

/-- The first thing that can be run under one of some paths. If there is none, that something is
there which cannot be run counts for more than that nothing is there. -/
def firstRunnable (tree : FileTree) (cwd : Place) : List Path → Except Fault (Path × Node)
  | [] => .error .notFound
  | path :: rest =>
    match runnable tree cwd path with
    | .ok node => .ok (path, node)
    | .error fault =>
      match firstRunnable tree cwd rest, fault with
      | .error .notFound, .denied => .error .denied
      | result, _ => result

/-- The path that a name stands for, and what can be run there. -/
def findProgram (tree : FileTree) (around : Surroundings) (name : String) :
    Except Fault (Path × Node) :=
  let path := Path.ofString name
  if name.isEmpty then .error .notFound
  else if path.chars.contains '/' then (runnable tree around.cwd path).map (path, ·)
  else
    let dirs := searchDirs ((around.environment.get? "PATH").getD standardSearchPath)
    firstRunnable tree around.cwd (dirs.map (·.join path))

/-! ## Scripts -/

/-- The program of a script and its argument, as the first line of the script says. -/
def scriptProgram? (content : Bytes) : Option (List String) :=
  match content with
  | 35 :: 33 :: rest =>
    let line := Text.trim (Utf8.decodeLossy (rest.takeWhile (· != 10)))
    let program := line.takeWhile fun c => c != ' ' && c != '\t'
    let argument := Text.trim (line.drop program.length)
    if program.isEmpty then none
    else some (String.ofList program :: if argument.isEmpty then [] else [String.ofList argument])
  | _ => none

/-- The settings of variables at the front of some words, and the words after them. -/
def leadingSettings : List String → List (String × String) × List String
  | [] => ([], [])
  | word :: rest =>
    match Text.cutAt? '=' word.toList with
    | some (name, value) =>
      let (settings, words) := leadingSettings rest
      ((String.ofList name, String.ofList value) :: settings, words)
    | none => ([], word :: rest)

/-- A program may be run by another one, and so on, this often. -/
def startLimit : Nat := 8

def startFrom (runShell : ShellRunner) :
    Nat → Surroundings → List String → Host → Host × Except Fault Exit
  | 0, _, _, host => (host, .error .tooManyLinks)
  | _, _, [], host => (host, .error .notFound)
  | limit + 1, around, name :: arguments, host =>
    match findProgram host.tree around name with
    | .error fault => (host, .error fault)
    | .ok (_, .program program) =>
      if shellNames.contains program then
        let (host, exit) := runShell around name arguments host
        (host, .ok exit)
      else if program == environmentProgram then
        let (settings, words) := leadingSettings arguments
        let around := { around with environment := around.environment.insertAll settings }
        if words.isEmpty then
          let (host, code) := Utility.printenv around name [] host
          (host, .ok (.code code))
        else
          match startFrom runShell limit around words host with
          | (host, .ok exit) => (host, .ok exit)
          | (host, .error fault) =>
            let host := around.complain
              (name ++ ": " ++ Utility.quoted (words.headD "") ++ ": " ++ fault.reason) host
            (host, .ok (.code (if fault == .notFound then 127 else 126)))
      else
        match utilities.lookup program with
        | none => (host, .error .badProgram)
        | some utility =>
          let (host, code) := utility around name arguments host
          (host, .ok (.code code))
    | .ok (path, .file content _) =>
      match scriptProgram? content with
      | some words => startFrom runShell limit around (words ++ path.text :: arguments) host
      | none => (host, .error .badProgram)
    | .ok _ => (host, .error .denied)

/-- Runs a program with its arguments. -/
def start (runShell : ShellRunner) (around : Surroundings) (words : List String) (host : Host) :
    Host × Except Fault Exit :=
  startFrom runShell startLimit around words host

end FirmwareBench.Shell
