import FirmwareBench.FileTree.Fault
set_option autoImplicit false

/-!
# Running programs

How a program ends, and what it takes to run one. Whoever runs programs may have a state of its own.
-/

namespace FirmwareBench

/-- How a started program ended. -/
inductive Exit where
  | code (n : Nat)
  | signal (n : Nat)
deriving DecidableEq, Repr

namespace Exit

def isSuccess (e : Exit) : Bool := e == code 0

/-- The exit code, if there is one. -/
def code? : Exit → Option Int
  | code n => some n
  | signal _ => none

end Exit

/-- Starts a program with its arguments and waits for its end. -/
abbrev Launcher (σ : Type) := σ → List String → σ × Except Fault Exit

/-- Has a shell carry out a command, and waits for its end. -/
abbrev Shell (σ : Type) := σ → String → σ × Except Fault Exit

end FirmwareBench
