import FirmwareBench.Exit
import FirmwareBench.Matrix.Plan
set_option autoImplicit false

/-!
# Running a plan

The steps run one after the other until one fails. Each is announced by its number and its name.

## Main definitions

* `RunOptions`: how a plan is run.
* `runSteps`: runs steps.
-/

namespace FirmwareBench

/-- Why a command did not do its work. -/
inductive ShellError where
  | notStarted (command : String) (cause : Fault)
  | failed (command : String) (exit : Exit)
deriving DecidableEq, Repr

def ShellError.message : ShellError → String
  | .notStarted command _ => "failed to spawn: " ++ command
  | .failed command exit =>
    "Command failed: " ++ command ++ "\nExit code: " ++ toString (exit.code?.getD (-1)) ++ "\n"

/-- The fault of the system behind an error. -/
def ShellError.cause? : ShellError → Option Fault
  | .notStarted _ cause => some cause
  | .failed _ _ => none

/-- What the end of a command means: it must end well. -/
def ShellError.check (command : String) : Except Fault Exit → Except ShellError Unit
  | .error fault => .error (.notStarted command fault)
  | .ok exit => if exit.isSuccess then .ok () else .error (.failed command exit)

/-- How a plan is run. -/
structure RunOptions where
  /-- The commands are not run. -/
  dryRun : Bool := false
  /-- The commands are printed before they run. -/
  verbose : Bool := false
deriving DecidableEq, Repr

/-- What is printed before a step runs. -/
def announcement (options : RunOptions) (number total : Nat) (step : Step) : String :=
  let header := "[" ++ toString number ++ "/" ++ toString total ++ "] " ++ step.name ++ "\n"
  if options.verbose || options.dryRun then header ++ step.command ++ "\n" else header

/-- Runs steps from the given number on, up to the first one that fails. -/
def runSteps {σ : Type} (shell : Shell σ) (print : σ → String → σ) (options : RunOptions)
    (total : Nat) : Nat → List Step → σ → σ × Except ShellError Unit
  | _, [], state => (print state "[matrix] done\n", .ok ())
  | number, step :: rest, state =>
    let state := print state (announcement options number total step)
    if options.dryRun then runSteps shell print options total (number + 1) rest state
    else
      match shell state step.command with
      | (state, result) =>
        match ShellError.check step.command result with
        | .ok () => runSteps shell print options total (number + 1) rest state
        | .error error => (state, .error error)

/-- Runs a whole plan. -/
def runPlan {σ : Type} (shell : Shell σ) (print : σ → String → σ) (options : RunOptions)
    (steps : List Step) (state : σ) : σ × Except ShellError Unit :=
  runSteps shell print options steps.length 1 steps state

end FirmwareBench
