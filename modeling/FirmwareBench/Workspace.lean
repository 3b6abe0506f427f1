import FirmwareBench.FileTree.Basic
import FirmwareBench.Text.Blank
set_option autoImplicit false

/-!
# The workspace around a place

A workspace is a directory whose manifest has a line that says so. It is looked for from a place
upwards, along the text of the path.

## Main definitions

* `FileTree.isWorkspace`: whether a directory is a workspace.
* `FileTree.workspaceAround?`: the closest workspace.
-/

namespace FirmwareBench

namespace FileTree

/-- The file that makes a directory a workspace. -/
def workspaceManifest : Path := .ofString "Cargo.toml"

/-- Whether the text of a manifest has a line that reads `[workspace]`. -/
def declaresWorkspace (text : List Char) : Bool :=
  (Text.splitAt '\n' text).any fun line => Text.trim line == "[workspace]".toList

/-- Whether a directory has a readable manifest that declares a workspace. -/
def isWorkspace (tree : FileTree) (cwd : Place) (dir : Path) : Bool :=
  match tree.readText cwd (dir.join workspaceManifest) with
  | .ok text => declaresWorkspace text.toList
  | .error _ => false

/-- Where the search starts: a directory itself, else its parent. -/
def searchStart (tree : FileTree) (cwd : Place) (start : Path) : Path :=
  if tree.isDirectory cwd start then start else start.parent?.getD start

/-- The closest workspace from a place upwards. -/
def workspaceAround? (tree : FileTree) (cwd : Place) (start : Path) : Option Path :=
  (tree.searchStart cwd start).climb.find? (tree.isWorkspace cwd)

end FileTree

end FirmwareBench
