import FirmwareBench.FileTree.Basic
import FirmwareBench.Yaml.Reading
set_option autoImplicit false

/-!
# Configuration of the build matrix

A configuration names commands and says for single demos how they differ from the rest.

## Main definitions

* `MatrixConfig`, `MatrixEntry`: a configuration and what it says about one demo.
* `MatrixConfig.load`: reads a configuration.
-/

namespace FirmwareBench

/-- What a configuration says about one demo. -/
structure MatrixEntry where
  demo : String
  /-- Commands that replace those of the configuration. -/
  commands : Dict String := .empty
  command? : Option String := none
  toolchain? : Option String := none
  /-- The boards to build for; all boards of the demo if there are none. -/
  targets : List String := []
  disabled : Bool := false

/-- What is run for which demo. -/
structure MatrixConfig where
  /-- Commands that run first, once. -/
  pre : List String := []
  commands : Dict String := .empty
  /-- The toolchain for demos that ask for none. -/
  toolchain? : Option String := none
  /-- What differs for single demos. -/
  entries : List MatrixEntry := []

/-- Why a configuration cannot be used. -/
inductive ConfigError where
  | unreadable (path : Path) (cause : Fault)
  | malformed (path : Path) (cause : Yaml.Fault)
deriving DecidableEq, Repr

namespace ConfigError

def message : ConfigError → String
  | unreadable path _ => "reading " ++ path.text
  | malformed path _ => "parsing " ++ path.text

/-- What the fault behind an error says. -/
def causeMessage : ConfigError → String
  | unreadable _ cause => cause.message
  | malformed _ cause => cause.message

end ConfigError

namespace MatrixConfig

open Yaml.Scope (required defaulted)

/-- Reads what is said about one demo. -/
def entry (scope : Yaml.Scope) (node : Yaml.Node) : Yaml.Reading MatrixEntry := do
  let fields ← scope.record
    ["demo", "commands", "command", "toolchain", "targets", "disabled"] node
  return {
    demo := ← required fields "demo" scope.text
    commands := ← defaulted fields "commands" .empty scope.texts
    command? := ← defaulted fields "command" none (scope.optional scope.text)
    toolchain? := ← defaulted fields "toolchain" none (scope.optional scope.text)
    targets := ← defaulted fields "targets" [] (scope.list scope.text)
    disabled := ← defaulted fields "disabled" false scope.flag }

/-- Reads a configuration. -/
def ofNode (scope : Yaml.Scope) (node : Yaml.Node) : Yaml.Reading MatrixConfig := do
  let fields ← scope.record ["pre", "commands", "toolchain", "entries"] node
  return {
    pre := ← defaulted fields "pre" [] (scope.list scope.text)
    commands := ← defaulted fields "commands" .empty scope.texts
    toolchain? := ← defaulted fields "toolchain" none (scope.optional scope.text)
    entries := ← defaulted fields "entries" [] (scope.list (entry scope)) }

def load (tree : FileTree) (cwd : Place) (path : Path) : Except ConfigError MatrixConfig :=
  match tree.read cwd path with
  | .error cause => .error (.unreadable path cause)
  | .ok bytes =>
    match Yaml.read ofNode bytes with
    | .error cause => .error (.malformed path cause)
    | .ok config => .ok config

/-- What a configuration says about a demo. -/
def entryFor? (config : MatrixConfig) (demo : String) : Option MatrixEntry :=
  config.entries.find? (·.demo == demo)

end MatrixConfig

end FirmwareBench
