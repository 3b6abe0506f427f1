import FirmwareBench.Dict
import FirmwareBench.FileTree.Fault
import FirmwareBench.FileTree.Rights
import FirmwareBench.Path
import FirmwareBench.Text.Utf8
set_option autoImplicit false

/-!
# File trees

A file tree holds files, directories and links under their places. A walk along a path follows the
links on its way. Whether a file may be opened is decided by its permission bits and by the rights
that go with the tree; directories have no such bits, so everyone may walk through them and change
what lies in them.

## Main definitions

* `Node`: what a place holds.
* `Place`: the names on the way from the root.
* `FileTree`: what is at which place, and with whose rights it is opened.
* `FileTree.walk`: where a path leads.
* `FileTree.read`: the content of a file, if it may be read.
-/

namespace FirmwareBench

open Utf8 (Bytes)

/-- What a place of a file tree holds. -/
inductive Node where
  /-- A file with its permission bits. -/
  | file (content : Bytes) (mode : Nat)
  | directory
  | link (target : Path)
  | program (name : String)
  /-- A file that is always empty and keeps nothing that is written to it. -/
  | sink
deriving DecidableEq, Repr

namespace Node

/-- Whether the node is a file that may be run. -/
def isExecutable : Node → Bool
  | file _ mode => mode &&& 0o111 != 0
  | program _ => true
  | _ => false

/-- What is read from the node; only files have content. -/
def content : Node → Bytes
  | file content _ => content
  | _ => []

/-- Whether the node is a file with content of its own. -/
def isFile : Node → Bool
  | file _ _ | program _ => true
  | _ => false

end Node

/-- A place in a file tree: the names on the way from the root, innermost first. -/
abbrev Place := List String

namespace Place

/-- The names from the root on, with slashes between them. -/
def key (place : Place) : String := "/".intercalate place.reverse

/-- The absolute path of a place. -/
def path (place : Place) : Path := Path.ofString ("/" ++ place.key)

end Place

/-- What is at which place. The root is always a directory. -/
structure FileTree where
  /-- The nodes by the names on the way to them. -/
  nodes : Dict Node
  /-- The rights of the process that the tree is seen by. -/
  rights : Rights := .privileged

namespace FileTree

def empty : FileTree := { nodes := .empty }

def node? (tree : FileTree) (place : Place) : Option Node :=
  if place.isEmpty then some .directory else tree.nodes.get? place.key

def put (tree : FileTree) (place : Place) (node : Node) : FileTree :=
  { tree with nodes := tree.nodes.insert place.key node }

/-- The names of what lies in a place, in order. -/
def children (tree : FileTree) (place : Place) : List String :=
  tree.nodes.keys.filterMap fun key =>
    let inside? := if place.isEmpty then some key.toList
      else Text.after? (place.key.toList ++ ['/']) key.toList
    match inside? with
    | some name => if name.contains '/' then none else some (String.ofList name)
    | none => none

/-! ## Walks -/

/-- Where a walk ends. -/
inductive Arrival where
  | found (place : Place) (node : Node)
  /-- At a place that holds nothing, in a directory; `slash` tells that the path goes on with a
  slash. -/
  | missing (place : Place) (slash : Bool)

/-- How far a walk goes without following links. -/
inductive Leg where
  /-- To its end. -/
  | done (arrival : Arrival)
  /-- To a link in a directory, with names left to go. -/
  | atLink (dir : Place) (target : Path) (rest : List String)

/-- Names longer than this many bytes are refused. -/
def nameLimit : Nat := 255

/-- Paths must be shorter than this many bytes. -/
def pathLimit : Nat := 4096

/-- A walk may follow this many links. -/
def linkLimit : Nat := 40

/-- Walks along names from a directory up to the first link. A link at the very end is followed if
`follow` says so. -/
def leg (tree : FileTree) (follow : Bool) : Place → List String → Except Fault Leg
  | here, [] => .ok (.done (.found here .directory))
  | here, name :: rest =>
    if name.isEmpty || name == "." then leg tree follow here rest
    else if name == ".." then leg tree follow here.tail rest
    else if name.utf8ByteSize > nameLimit then .error .nameTooLong
    else
      match tree.node? (name :: here) with
      | none =>
        if rest.all (·.isEmpty) then .ok (.done (.missing (name :: here) !rest.isEmpty))
        else .error .notFound
      | some .directory => leg tree follow (name :: here) rest
      | some (.link target) =>
        if rest.isEmpty && !follow then .ok (.done (.found (name :: here) (.link target)))
        else .ok (.atLink here target rest)
      | some node =>
        if rest.isEmpty then .ok (.done (.found (name :: here) node)) else .error .notDirectory

/-- The names of a path, with the empty ones that repeated slashes leave. -/
def names (path : Path) : List String := path.pieces.map String.ofList

/-- Walks along names, following at most the given number of links. -/
def walkNames (tree : FileTree) (follow : Bool) :
    Nat → Place → List String → Except Fault Arrival
  | limit, here, list =>
    match tree.leg follow here list with
    | .error fault => .error fault
    | .ok (.done arrival) => .ok arrival
    | .ok (.atLink dir target rest) =>
      match limit with
      | 0 => .error .tooManyLinks
      | limit + 1 =>
        walkNames tree follow limit (if target.isAbsolute then [] else dir) (names target ++ rest)

/-- Where a path leads that is seen from a directory. -/
def walk (tree : FileTree) (cwd : Place) (follow : Bool) (path : Path) : Except Fault Arrival :=
  if path.chars.contains (Char.ofNat 0) then .error .nulInPath
  else if path.chars.isEmpty then .error .notFound
  else if path.text.utf8ByteSize ≥ pathLimit then .error .nameTooLong
  else tree.walkNames follow linkLimit (if path.isAbsolute then [] else cwd) (names path)

/-! ## Looking -/

/-- The place and the node that a path leads to, through links. -/
def resolve (tree : FileTree) (cwd : Place) (path : Path) : Except Fault (Place × Node) :=
  match tree.walk cwd true path with
  | .error fault => .error fault
  | .ok (.found place node) => .ok (place, node)
  | .ok (.missing _ _) => .error .notFound

def isDirectory (tree : FileTree) (cwd : Place) (path : Path) : Bool :=
  match tree.resolve cwd path with
  | .ok (_, .directory) => true
  | _ => false

def isExecutable (tree : FileTree) (cwd : Place) (path : Path) : Bool :=
  match tree.resolve cwd path with
  | .ok (_, node) => node.isExecutable
  | .error _ => false

/-- Whether a node may be opened. The programs of the system belong to a privileged process. -/
def permits (tree : FileTree) (access : Access) : Node → Bool
  | .file _ mode => tree.rights.permits access mode
  | .program _ => access != .write || tree.rights == .privileged
  | .sink => access != .execute
  | .directory | .link _ => true

/-- The content of the file that a path leads to, if it may be read. -/
def read (tree : FileTree) (cwd : Place) (path : Path) : Except Fault Bytes :=
  match tree.resolve cwd path with
  | .error fault => .error fault
  | .ok (_, .file content mode) =>
    if tree.rights.permits .read mode then .ok content else .error .denied
  | .ok (_, .directory) => .error .isDirectory
  | .ok _ => .ok []

/-- The text of the file that a path leads to. -/
def readText (tree : FileTree) (cwd : Place) (path : Path) : Except Fault String :=
  match tree.read cwd path with
  | .error fault => .error fault
  | .ok content =>
    match Utf8.decode? content with
    | some text => .ok (String.ofList text)
    | none => .error .notText

end FileTree

end FirmwareBench
