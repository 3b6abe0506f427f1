import FirmwareBench.Host
set_option autoImplicit false

/-!
# Utilities

A utility is a small program of the system. It gets its arguments and what its caller passes on to
it, changes the host, and ends with an exit code.

## Main definitions

* `Surroundings`: what a caller passes on.
* `Utility`: a small program.
* `readFlags`: letters in front of the operands.
-/

namespace FirmwareBench.Shell

open Utf8 (Bytes)

/-- What a program gets from its caller besides its arguments. -/
structure Surroundings where
  cwd : Place
  environment : Dict String := .empty
  output : Target := .output
  errors : Target := .errors
  /-- The number of the running program. -/
  id : Nat := 1
  /-- What its messages begin with. -/
  voice : String := ""

namespace Surroundings

def say (around : Surroundings) (text : String) (host : Host) : Host :=
  host.writeTo around.output (Utf8.ofString text)

def complain (around : Surroundings) (line : String) (host : Host) : Host :=
  host.writeTo around.errors (Utf8.ofString (around.voice ++ line ++ "\n"))

end Surroundings

/-- A small program of the system, called by a name with arguments. -/
abbrev Utility := Surroundings → String → List String → Host → Host × Nat

namespace Utility

/-- Ends with a complaint and the exit code 1. -/
def fail (around : Surroundings) (name complaint : String) (host : Host) : Host × Nat :=
  (around.complain (name ++ ": " ++ complaint) host, 1)

/-- Ends with a complaint about how it was called, and the exit code 1. -/
def misuse (around : Surroundings) (name complaint : String) (host : Host) : Host × Nat :=
  fail around name (complaint ++ "\nTry '" ++ name ++ " --help' for more information.") host

/-- A text between quotation marks: double ones if it has single ones. -/
def quoted (text : String) : String :=
  if text.toList.contains '\x27' then "\"" ++ text ++ "\"" else "'" ++ text ++ "'"

/-- Whether a shell would not take a text for a single plain word. -/
def isPeculiar (text : String) : Bool :=
  text.isEmpty || text.startsWith "#" || text.startsWith "~" ||
    text.toList.any fun c => " \t\n!\"$&'()*;<=>?[\\^\x60|".toList.contains c

/-- A text between quotation marks if it would be no plain word without them. -/
def quotedIfPeculiar (text : String) : String := if isPeculiar text then quoted text else text

/-- Does something with each of some texts. The exit code is the largest one. -/
def forEach (work : String → Host → Host × Nat) : List String → Host → Host × Nat
  | [], host => (host, 0)
  | text :: rest, host =>
    let (host, code) := work text host
    let (host, later) := forEach work rest host
    (host, max code later)

/-- The letters of the arguments with a dash at the front, and the operands after them. -/
def readFlags : List String → List Char × List String
  | [] => ([], [])
  | word :: rest =>
    match word.toList with
    | ['-', '-'] => ([], rest)
    | '-' :: letter :: letters =>
      let (flags, operands) := readFlags rest
      (letter :: letters ++ flags, operands)
    | _ => ([], word :: rest)

/-- Runs a utility that knows some flags; others are refused. -/
def withFlags (known : String) (work : List Char → Utility) : Utility :=
  fun around name words host =>
    let (flags, operands) := readFlags words
    match flags.find? fun flag => !known.toList.contains flag with
    | some flag => misuse around name ("invalid option -- " ++ quoted (String.ofList [flag])) host
    | none => work flags around name operands host

def lastName (path : String) : String :=
  match ((Path.ofString path).pieces.filter fun piece => !piece.isEmpty).getLast? with
  | some name => String.ofList name
  | none => if path.isEmpty then "" else "/"

/-- What is left of a text that should be a number. -/
def readInt? (text : String) : Option Int :=
  let digits (sign : Int) (chars : List Char) : Option Int :=
    if chars.isEmpty || !chars.all Char.isDigit then none
    else some (sign * (chars.foldl (fun n c => 10 * n + (c.toNat - 48)) 0 : Nat))
  match text.trimAscii.toString.toList with
  | '-' :: rest => digits (-1) rest
  | '+' :: rest => digits 1 rest
  | chars => digits 1 chars

/-- The lines of some bytes, each with the line feed that ends it. -/
def lines : Bytes → List Bytes
  | [] => []
  | b :: rest =>
    if b == 10 then [b] :: lines rest
    else match lines rest with
      | [] => [[b]]
      | line :: later => (b :: line) :: later

/-- The bytes a utility reads under a name; a dash stands for the standard input. -/
def readOperand (around : Surroundings) (operand : String) (host : Host) :
    Host × Except Fault Bytes :=
  if operand == "-" then ({ host with input := [] }, .ok host.input)
  else (host, host.tree.read around.cwd (.ofString operand))

/-- Does something with the bytes under each of some names; without names with the standard input. A
complaint about a name that cannot be read is made of it. -/
def forContents (around : Surroundings) (name : String) (complaint : String → String)
    (operands : List String) (work : String → Bytes → Host → Host) : Host → Host × Nat :=
  forEach (fun operand host =>
    match readOperand around operand host with
    | (host, .ok bytes) => (work operand bytes host, 0)
    | (host, .error fault) => fail around name (complaint operand ++ ": " ++ fault.reason) host)
    (if operands.isEmpty then ["-"] else operands)

end Utility

end FirmwareBench.Shell
