import FirmwareBench.CommandLine.Reader
import FirmwareBench.Demo.Catalog
import FirmwareBench.Matrix.Run
import FirmwareBench.Program.Basic
import FirmwareBench.Workspace
set_option autoImplicit false

/-!
# The program that runs the build matrix

It reads the configuration of the workspace, makes the plan for what is asked for, and has a shell
run the commands in the workspace.

## Main definitions

* `Matrix.Order`: what it is asked for.
* `Matrix.Order.read`: reads a command line.
* `Matrix.Order.prepare`: finds the workspace and makes the plan.
* `Matrix.Order.perform`: runs the plan.
* `Matrix.run`: the program.
-/

namespace FirmwareBench.Matrix

open CommandLine (OptionRule Grammar Refusal isPath)

/-- What the program is asked for. -/
structure Order where
  /-- The configuration, if it is not that of the workspace. -/
  config? : Option Path := none
  selection : Selection := {}
  options : RunOptions := {}

/-! ## The command line -/

/-- Whether a text is the name of a board. -/
def isBoard (text : String) : Bool := (Board.ofName text).isOk

def configRule : OptionRule := { name := "config", taking := .value, accepts := isPath }

def commandRule : OptionRule := { name := "command", taking := .value }

def demoRule : OptionRule := { name := "demo", letter? := some 'd', taking := .values }

def targetRule : OptionRule :=
  { name := "target", letter? := some 't', taking := .values, accepts := isBoard }

def dryRunRule : OptionRule := { name := "dry-run" }

def verboseRule : OptionRule := { name := "verbose" }

def grammar : Grammar where
  rules := [configRule, commandRule, demoRule, targetRule, dryRunRule, verboseRule]

namespace Order

def read (words : List String) : Except Refusal Order := do
  let (_, words) ← CommandLine.choose true [("matrix", ())] words
  let settings ← grammar.read words
  return {
    config? := (settings.value? configRule.name).map .ofString
    selection :=
      { command? := settings.value? commandRule.name
        demos := settings.values demoRule.name
        targets := (settings.values targetRule.name).filterMap fun name =>
          (Board.ofName name).toOption }
    options :=
      { dryRun := settings.has dryRunRule.name
        verbose := settings.has verboseRule.name } }

/-! ## Planning and running -/

/-- The configuration of a workspace. -/
def standardConfig : Path := .ofString "matrix.yaml"

/-- The workspace to work in: the closest one from the working directory upwards, else another. -/
def workspace (tree : FileTree) (cwd : Place) (other? : Option Path) : Except Failure Path :=
  match (tree.workspaceAround? cwd cwd.path).or other? with
  | some path => .ok path
  | none =>
    .error { message := "workspace Cargo.toml not found (run from within the repo or pass --config)" }

def steps (order : Order) (tree : FileTree) (cwd : Place) (workspace : Path) :
    Except Failure (List Step) :=
  let path := order.config?.getD (workspace.join standardConfig)
  match MatrixConfig.load tree cwd path with
  | .error error => .error ⟨error.message, some error.causeMessage⟩
  | .ok config =>
    match config.plan order.selection workspace Demo.all with
    | .error error => .error { message := error.message }
    | .ok steps => .ok steps

/-- The workspace to work in, and the steps that are asked for. -/
def prepare (order : Order) (tree : FileTree) (cwd : Place) (other? : Option Path) :
    Except Failure (Path × List Step) :=
  match workspace tree cwd other? with
  | .error failure => .error failure
  | .ok workspace => (order.steps tree cwd workspace).map fun steps => (workspace, steps)

/-- Does what is asked for; the shell is that of a directory. -/
def perform {σ : Type} (order : Order) (shellIn : Path → Shell σ) (print : σ → String → σ)
    (tree : FileTree) (cwd : Place) (other? : Option Path) (state : σ) : σ × Except Failure Unit :=
  match order.prepare tree cwd other? with
  | .error failure => (state, .error failure)
  | .ok (workspace, steps) =>
    match runPlan (shellIn workspace) print order.options steps state with
    | (state, .ok ()) => (state, .ok ())
    | (state, .error error) =>
      (state, .error ⟨error.message, error.cause?.map Fault.message⟩)

end Order

/-! ## The program -/

def name : String := "xtask"

def usage : String := "xtask matrix [OPTIONS]"

def run (shellIn : Path → Shell Host) (cwd : Place) (other? : Option Path) (words : List String)
    (host : Host) : Host × Nat :=
  match Order.read words with
  | .error refusal => refuse name usage host refusal
  | .ok order =>
    let (host, result) := order.perform shellIn Host.print host.tree cwd other? host
    conclude Failure.line host result

end FirmwareBench.Matrix
