import FirmwareBench.FileTree.Basic
import FirmwareBench.Toolchain.Inquiry
set_option autoImplicit false

/-!
# Finding programs

A program is looked for in a list of directories. A name of more than one component is a path and
bypasses the directories.

## Main definitions

* `searchDirs`: the directories written in a search path.
* `FileTree.hasProgram`: whether a program is found.
* `FileTree.detector`: finds programs in a file tree.
-/

namespace FirmwareBench

/-- The directories of a search path, in which colons part them. -/
def searchDirs (searchPath : String) : List Path :=
  (Text.splitAt ':' searchPath.toList).map Path.mk

namespace FileTree

/-- Whether a program is found: a path by itself, any other name in one of the directories. -/
def hasProgram (tree : FileTree) (cwd : Place) (dirs : List Path) (name : String) : Bool :=
  let path := Path.ofString name
  if path.components.length > 1 then tree.isExecutable cwd path
  else dirs.any fun dir => tree.isExecutable cwd (dir.join path)

/-- Answers a list of program names with the first one found. -/
def detector (tree : FileTree) (cwd : Place) (dirs : List Path) : Detector :=
  fun names => names.find? (tree.hasProgram cwd dirs)

end FileTree

end FirmwareBench
