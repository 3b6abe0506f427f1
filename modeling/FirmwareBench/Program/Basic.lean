import FirmwareBench.CommandLine.Grammar
import FirmwareBench.Host
import FirmwareBench.Text.Cut
set_option autoImplicit false

/-!
# Programs and how they end

A program that does its work ends with the exit code 0; one that fails complains and ends with 1, and
one that cannot make sense of its command line ends with 2.

## Main definitions

* `Failure`: why a program fails.
* `Failure.report`, `Failure.line`: the two ways to complain.
* `conclude`, `refuse`: how a program ends.
-/

namespace FirmwareBench

/-- Why a program fails. -/
structure Failure where
  message : String
  cause? : Option String := none
deriving DecidableEq, Repr

namespace Failure

/-- The indentation of a cause. -/
def indentation : List Char := "    ".toList

def indent (text : String) : String :=
  String.ofList (indentation ++ Text.replaceAll ['\n'] ('\n' :: indentation) text.toList)

/-- A failure with its cause in a paragraph of its own. -/
def report (failure : Failure) : String :=
  let cause := match failure.cause? with
    | some cause => "\nCaused by:\n" ++ indent cause ++ "\n"
    | none => ""
  "Error: " ++ failure.message ++ "\n" ++ cause

/-- A failure with its cause behind it. -/
def line (failure : Failure) : String :=
  let cause := match failure.cause? with
    | some cause => ": " ++ cause
    | none => ""
  "Error: " ++ failure.message ++ cause ++ "\n"

end Failure

def version : String := "0.1.0"

/-- How a program ends that did its work or failed. -/
def conclude (complaint : Failure → String) (host : Host) (result : Except Failure Unit) :
    Host × Nat :=
  match result with
  | .ok () => (host, 0)
  | .error failure => (host.complain (complaint failure), 1)

/-- Only a program that did its work ends with 0. -/
theorem conclude_eq_zero_iff {complaint : Failure → String} {host : Host}
    {result : Except Failure Unit} : (conclude complaint host result).2 = 0 ↔ result = .ok () := by
  cases result <;> simp [conclude]

/-- How a program ends that does not do its work. -/
def refuse (name usage : String) (host : Host) : CommandLine.Refusal → Host × Nat
  | .version => (host.print (name ++ " " ++ version ++ "\n"), 0)
  | .help => (host.print ("Usage: " ++ usage ++ "\n"), 0)
  | .misuse => (host.complain ("Usage: " ++ usage ++ "\n"), 2)

end FirmwareBench
