import FirmwareBench.Program.Bootstrap
import FirmwareBench.Program.Inspect
import FirmwareBench.Program.Matrix
import FirmwareBench.Shell.Invocation
set_option autoImplicit false

/-!
# The command line

The first word names a program: `wdfw` shows descriptions, `matrix` runs the build matrix and
`bootstrap` fetches archives. A run works on a copy of the file tree around the working directory,
with the utilities of `systemTree` for programs; at its end what it printed is shown and the files it
changed are written.
-/

namespace FirmwareBench

/-- The variables of the environment that programs look at. -/
def knownVariables : List String :=
  ["HOME", "PATH", "WDFW_DOWNLOADER", "WDFW_OUT_DIR", "WDFW_README"]

/-- The permission bits given to files that can be read, since the bits of the host are not asked
for. -/
def assumedMode : Nat := 0o755

/-- Runs the program that the first word names. -/
def dispatch (cwd : Place) (environment : Dict String) (words : List String) (host : Host) :
    Host × Nat :=
  match words with
  | "bootstrap" :: rest => Bootstrap.run (Shell.launcher cwd environment) cwd environment rest host
  | "matrix" :: _ => Matrix.run (Shell.commandShell cwd environment) cwd none words host
  | words => Inspect.run cwd environment words host

/-! ## Copying from the host -/

/-- Adds a file of the host to a tree. One that cannot be read has no permission bits there. -/
def copyFile (tree : FileTree) (place : Place) : IO FileTree := do
  try
    let bytes ← IO.FS.readBinFile place.path.text
    return tree.put place (.file bytes.toList assumedMode)
  catch
    | .permissionDenied .. => return tree.put place (.file [] 0)
    | _ => return tree

/-- Adds a directory of the host to a tree, with what lies in it down to a depth. -/
def copyDirectory (tree : FileTree) (place : Place) : Nat → IO FileTree
  | 0 => return tree
  | depth + 1 => do
    let dir ← IO.FS.realPath place.path.text
    (← dir.readDir).foldlM (fun tree entry => do
      let inner := entry.fileName :: place
      match (← entry.path.symlinkMetadata).type with
      | .dir => copyDirectory (tree.put inner .directory) inner depth
      | .symlink =>
        let target ← IO.FS.realPath entry.path
        return tree.put inner (.link (.ofString target.toString))
      | _ => copyFile tree inner) tree

/-- Adds the directories around a place to a tree, with their workspace manifests. -/
def copyAround (tree : FileTree) : Place → IO FileTree
  | [] => return tree
  | name :: outer => do
    let tree := (← copyAround tree outer).put (name :: outer) .directory
    copyFile tree (FileTree.workspaceManifest.text :: name :: outer)

/-- The place of a path from the root on. -/
def placeOf (path : Path) : Place := ((FileTree.names path).filter (!·.isEmpty)).reverse

/-- Adds the names in a directory of programs to a tree, as programs without content. -/
def copyPrograms (tree : FileTree) (dir : Path) : IO FileTree := do
  if !dir.isAbsolute then return tree
  try
    let place := placeOf (.ofString (← IO.FS.realPath dir.text).toString)
    let (tree, _) := tree.makeDirectories [] place.path
    let entries ← (← IO.FS.realPath dir.text).readDir
    return entries.foldl (fun tree entry =>
      let inner := entry.fileName :: place
      if (tree.node? inner).isSome then tree else tree.put inner (.file [] assumedMode)) tree
  catch _ => return tree

/-- How deep directories are copied. -/
def copyDepth : Nat := 32

/-! ## Writing to the host -/

/-- Writes what differs between two trees in a place. -/
def writeChanges (before after : FileTree) (place : Place) : IO Unit := do
  for (key, node) in after.nodes.toList do
    if FileTree.isWithin place key && before.nodes.get? key != some node then
      match node with
      | .directory => IO.FS.createDirAll ("/" ++ key)
      | .file content _ => IO.FS.writeBinFile ("/" ++ key) ⟨content.toArray⟩
      | _ => pure ()
  for (key, node) in before.nodes.toList.reverse do
    if FileTree.isWithin place key && (after.nodes.get? key).isNone then
      if node == .directory then IO.FS.removeDirAll ("/" ++ key)
      else IO.FS.removeFile ("/" ++ key)

/-- Runs a program on a copy of the host: of the workspace around the working directory, or of the
working directory alone if there is none. -/
def runOnHost (words : List String) : IO Nat := do
  let cwd := placeOf (.ofString (← IO.currentDir).toString)
  let known ← knownVariables.filterMapM fun name => return (← IO.getEnv name).map (name, ·)
  let environment := Dict.ofList known
  let around ← copyAround { Shell.systemTree with rights := .owner } cwd
  let scope := ((around.workspaceAround? cwd cwd.path).map placeOf).getD cwd
  let tree ← copyDirectory around scope copyDepth
  let tree ← (Inspect.programDirs environment).foldlM copyPrograms tree
  let (host, code) := dispatch cwd environment words { tree }
  (← IO.getStdout).write ⟨host.output.toArray⟩
  (← IO.getStderr).write ⟨host.errors.toArray⟩
  writeChanges tree host.tree scope
  return code

end FirmwareBench

/-- Runs the program that the command line names. -/
def main (words : List String) : IO UInt32 := do
  return UInt32.ofNat (← FirmwareBench.runOnHost words)
