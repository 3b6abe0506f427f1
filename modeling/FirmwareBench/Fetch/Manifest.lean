import FirmwareBench.Fetch.Artifact
import FirmwareBench.FileTree.Basic
import FirmwareBench.Yaml.Reading
set_option autoImplicit false

/-!
# Files that tell what to fetch

The README holds the addresses; a manifest may name other artifacts than the standard ones.
-/

namespace FirmwareBench

/-- The text of the README at a path. -/
def readReadme (tree : FileTree) (cwd : Place) (path : Path) : Except FetchError String :=
  match tree.readText cwd path with
  | .ok text => .ok text
  | .error cause => .error (.readmeUnreadable path cause)

namespace Manifest

def artifact (scope : Yaml.Scope) (node : Yaml.Node) : Yaml.Reading Artifact := do
  let fields ← scope.record ["name", "label", "file", "pattern"] node
  return {
    name := ← Yaml.Scope.required fields "name" scope.text
    label := ← Yaml.Scope.required fields "label" scope.text
    file := ← Yaml.Scope.required fields "file" scope.text
    pattern? := ← Yaml.Scope.defaulted fields "pattern" none (scope.optional scope.text) }

def artifacts (scope : Yaml.Scope) (node : Yaml.Node) : Yaml.Reading (List Artifact) := do
  let fields ← scope.record ["artifacts"] node
  Yaml.Scope.required fields "artifacts" (scope.list (artifact scope))

/-- The artifacts of the manifest at a path. -/
def load (tree : FileTree) (cwd : Place) (path : Path) : Except FetchError (List Artifact) :=
  match tree.read cwd path with
  | .error cause => .error (.manifestUnreadable path cause)
  | .ok bytes =>
    match Yaml.read artifacts bytes with
    | .error cause => .error (.manifestMalformed path cause)
    | .ok list => .ok list

end Manifest

end FirmwareBench
