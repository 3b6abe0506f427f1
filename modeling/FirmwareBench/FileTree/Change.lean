import FirmwareBench.FileTree.Basic
set_option autoImplicit false

/-!
# Changes of a file tree

Writing files and making directories. A single change that fails leaves the tree as it was.

## Main definitions

* `FileTree.write`: replaces or makes a file.
* `FileTree.makeDirectory`: makes one directory.
* `FileTree.makeDirectories`: makes a directory with all those on the way to it.
* `FileTree.prune`, `FileTree.graft`: takes away or copies a place with all that lies in it.
-/

namespace FirmwareBench.FileTree

open Utf8 (Bytes)

/-- The permission bits of a new file. -/
def newFileMode : Nat := 0o644

/-- Replaces the content of a file, if it may be written, by what a function makes of it; a new file
was empty before. -/
def revise (tree : FileTree) (cwd : Place) (path : Path) (change : Bytes → Bytes) :
    Except Fault FileTree :=
  match tree.walk cwd true path with
  | .error fault => .error fault
  | .ok (.missing place slash) =>
    if slash then .error .isDirectory else .ok (tree.put place (.file (change []) newFileMode))
  | .ok (.found _ .directory) => .error .isDirectory
  | .ok (.found place node) =>
    if !tree.permits .write node then .error .denied
    else
      match node with
      | .file content mode => .ok (tree.put place (.file (change content) mode))
      | _ => .ok tree

def write (tree : FileTree) (cwd : Place) (path : Path) (content : Bytes) : Except Fault FileTree :=
  tree.revise cwd path fun _ => content

def append (tree : FileTree) (cwd : Place) (path : Path) (content : Bytes) :
    Except Fault FileTree :=
  tree.revise cwd path (· ++ content)

/-- Makes a directory. Slashes at the end of its path do not count, so a link at its place is not
followed. -/
def makeDirectory (tree : FileTree) (cwd : Place) (path : Path) : Except Fault FileTree :=
  match tree.walk cwd false path.trimEnd with
  | .error fault => .error fault
  | .ok (.missing place _) => .ok (tree.put place .directory)
  | .ok (.found _ _) => .error .occupied

/-- Makes a directory unless the path leads to one already. -/
def ensureDirectory (tree : FileTree) (cwd : Place) (path : Path) : FileTree × Except Fault Unit :=
  match tree.makeDirectory cwd path with
  | .ok tree => (tree, .ok ())
  | .error fault => (tree, if tree.isDirectory cwd path then .ok () else .error fault)

/-- Makes the directories of a list of paths, each of them the parent of the one before: the first
one if that is possible, else those after it first. Directories made before a failure stay. -/
def makeAlong (tree : FileTree) (cwd : Place) : List Path → FileTree × Except Fault Unit
  | [] => (tree, .ok ())
  | path :: parents =>
    if path.chars.isEmpty then (tree, .ok ())
    else
      match tree.makeDirectory cwd path with
      | .ok tree => (tree, .ok ())
      | .error .notFound =>
        match makeAlong tree cwd parents with
        | (tree, .ok ()) => tree.ensureDirectory cwd path
        | failed => failed
      | .error fault => (tree, if tree.isDirectory cwd path then .ok () else .error fault)

/-- Makes a directory with all those on the way to it. -/
def makeDirectories (tree : FileTree) (cwd : Place) (path : Path) : FileTree × Except Fault Unit :=
  tree.makeAlong cwd path.climb

/-! ## Places with all that lies in them -/

/-- Whether a key is that of a place or of something in it. -/
def isWithin (place : Place) (key : String) : Bool :=
  key == place.key || (Text.after? (place.key.toList ++ ['/']) key.toList).isSome

/-- The tree without a place and all that lies in it. -/
def prune (tree : FileTree) (place : Place) : FileTree :=
  { tree with nodes := tree.nodes.filter fun key _ => !isWithin place key }

/-- The tree with a copy of a place, and of all that lies in it, at another place. -/
def graft (tree : FileTree) (source dest : Place) : FileTree :=
  let copies := tree.nodes.toList.filterMap fun (key, node) =>
    if isWithin source key then
      some (dest.key ++ String.ofList (key.toList.drop source.key.length), node)
    else none
  { tree with nodes := tree.nodes.insertAll copies }

end FirmwareBench.FileTree
