import FirmwareBench.FileTree.Change
set_option autoImplicit false

/-!
# The host

What a program finds when it runs, and what is left when it has ended: the file tree, what can be
read from the standard input, and what was written to the standard output, to the standard error
output and into the pipes that are open.

## Main definitions

* `Host`: the state of the host.
* `Target`: where a program writes to.
* `Host.writeTo`: writes bytes.
-/

namespace FirmwareBench

open Utf8 (Bytes)

/-- The state of the host. -/
structure Host where
  tree : FileTree
  /-- What nobody has read yet from the standard input. -/
  input : Bytes := []
  /-- What was written to the standard output. -/
  output : Bytes := []
  /-- What was written to the standard error output. -/
  errors : Bytes := []
  /-- What was written into the open pipes, outermost first. -/
  pipes : List Bytes := []

/-- Where a program writes to. -/
inductive Target where
  | output
  | errors
  /-- Into the pipe of a number. -/
  | pipe (index : Nat)
  /-- At the end of a file. -/
  | file (place : Place)
  | nothing
deriving DecidableEq, Repr

namespace Host

def writeTo (host : Host) (target : Target) (bytes : Bytes) : Host :=
  match target with
  | .output => { host with output := host.output ++ bytes }
  | .errors => { host with errors := host.errors ++ bytes }
  | .pipe index => { host with pipes := host.pipes.modify index (· ++ bytes) }
  | .file place =>
    match host.tree.node? place with
    | some (.file content mode) =>
      { host with tree := host.tree.put place (.file (content ++ bytes) mode) }
    | _ => host
  | .nothing => host

/-- Writes a text to the standard output. -/
def print (host : Host) (text : String) : Host := host.writeTo .output (Utf8.ofString text)

/-- Writes a text to the standard error output. -/
def complain (host : Host) (text : String) : Host := host.writeTo .errors (Utf8.ofString text)

@[simp] theorem print_tree (host : Host) (text : String) : (host.print text).tree = host.tree := rfl

@[simp] theorem complain_tree (host : Host) (text : String) :
    (host.complain text).tree = host.tree := rfl

@[simp] theorem complain_output (host : Host) (text : String) :
    (host.complain text).output = host.output := rfl

end Host

end FirmwareBench
