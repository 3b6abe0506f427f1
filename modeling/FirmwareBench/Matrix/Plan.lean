import FirmwareBench.Demo.Descriptor
import FirmwareBench.Matrix.Config
import FirmwareBench.Matrix.Template
set_option autoImplicit false

/-!
# Planning the build matrix

The plan of a matrix holds the commands that run first and a step for each demo and each board that
the demo is built for.

## Main definitions

* `Selection`: what is asked for.
* `Step`: a named command.
* `plan`: the steps for what is asked for.
-/

namespace FirmwareBench

/-- What is asked for. -/
structure Selection where
  /-- The command to run where the configuration does not say. -/
  command? : Option String := none
  /-- The demos to build; all of them if there are none. -/
  demos : List String := []
  /-- The boards to build for; all of them if there are none. -/
  targets : List Board := []

namespace Selection

def wantsDemo (selection : Selection) (demo : Demo) : Bool :=
  selection.demos.isEmpty || selection.demos.contains demo.name

def wantsBoard (selection : Selection) (board : Board) : Bool :=
  selection.targets.isEmpty || selection.targets.contains board

end Selection

/-- A named command. -/
structure Step where
  name : String
  command : String
deriving DecidableEq, Repr

/-- Why there is no plan. -/
inductive PlanError where
  | unknownDemo (name : String)
  /-- Nothing says which command to run. -/
  | noCommand
  /-- An entry names a board that does not exist. -/
  | badBoard (cause : BuildError)
  /-- An entry names a board that the demo does not build for. -/
  | unsupported (demo : String) (board : Board)
deriving DecidableEq, Repr

def PlanError.message : PlanError → String
  | .unknownDemo name => "unknown demo: " ++ name
  | .noCommand => "no command selected (pass --command <name> or set \x60command:\x60 per entry)"
  | .badBoard cause => cause.message
  | .unsupported demo board => "demo \x60" ++ demo ++ "\x60 does not build for " ++ board.name

namespace MatrixConfig

/-- The toolchain if neither the demo nor the configuration names one. -/
def standardToolchain : String := "llvm"

/-- The name of the command for a demo. -/
def commandName (selection : Selection) (own? : Option MatrixEntry) : Except PlanError String :=
  match (own?.bind (·.command?)).or selection.command? with
  | some name => .ok name
  | none => .error .noCommand

/-- The template of a command; a name without a command is a template itself. -/
def template (config : MatrixConfig) (own? : Option MatrixEntry) (name : String) : String :=
  ((own?.bind (·.commands.get? name)).or (config.commands.get? name)).getD name

/-- The toolchain for a demo. -/
def toolchain (config : MatrixConfig) (own? : Option MatrixEntry) (demo : Demo) : String :=
  let asked? := if demo.toolchain.isEmpty then none else some demo.toolchain
  (((own?.bind (·.toolchain?)).or asked?).or config.toolchain?).getD standardToolchain

/-- A board that an entry names for a demo. -/
def entryBoard (demo : Demo) (name : String) : Except PlanError Board :=
  match Board.ofName name with
  | .error cause => .error (.badBoard cause)
  | .ok board => if demo.supports board then .ok board else .error (.unsupported demo.name board)

/-- The boards that a demo is built for. -/
def boards (own? : Option MatrixEntry) (demo : Demo) : Except PlanError (List Board) :=
  match own?.filter fun entry => !entry.targets.isEmpty with
  | some entry => entry.targets.mapM (entryBoard demo)
  | none => .ok demo.targets

/-- The step that builds a demo for a board. -/
def buildStep (config : MatrixConfig) (own? : Option MatrixEntry) (workspace : Path) (demo : Demo)
    (name : String) (board : Board) : Step :=
  { name := demo.name ++ " [" ++ board.name ++ "] (" ++ name ++ ")"
    command := renderStep (config.template own? name)
      { workspace, demo := demo.name, target := board.name,
        toolchain := config.toolchain own? demo,
        defines := " ".intercalate (demo.defineOptions .empty) } }

/-- Whether a demo is built at all. -/
def isActive (config : MatrixConfig) (selection : Selection) (demo : Demo) : Bool :=
  selection.wantsDemo demo && !(config.entryFor? demo.name).any (·.disabled)

/-- The steps for a demo. -/
def demoSteps (config : MatrixConfig) (selection : Selection) (workspace : Path) (demo : Demo) :
    Except PlanError (List Step) :=
  if !config.isActive selection demo then .ok []
  else do
    let own? := config.entryFor? demo.name
    let name ← commandName selection own?
    let boards ← boards own? demo
    return (boards.filter selection.wantsBoard).map
      (config.buildStep own? workspace demo name)

/-- The steps that run first. -/
def preSteps (config : MatrixConfig) : List Step :=
  config.pre.zipIdx.map fun (command, index) => ⟨"pre:" ++ toString (index + 1), command⟩

/-- The steps for what is asked for. -/
def plan (config : MatrixConfig) (selection : Selection) (workspace : Path) (demos : List Demo) :
    Except PlanError (List Step) :=
  match selection.demos.find? fun name => !demos.any (·.name == name) with
  | some name => .error (.unknownDemo name)
  | none => do
    let steps ← demos.mapM (config.demoSteps selection workspace)
    return config.preSteps ++ steps.flatten

end MatrixConfig

end FirmwareBench
