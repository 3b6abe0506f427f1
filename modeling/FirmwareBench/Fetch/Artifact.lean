import FirmwareBench.Fetch.Error
import FirmwareBench.Pattern.Reader
set_option autoImplicit false

/-!
# Artifacts

An artifact is an archive whose address stands in the README, behind a link with a known label.

## Main definitions

* `Artifact`: an archive to fetch.
* `Artifact.standard`: the archives fetched if no manifest names others.
* `Artifact.linkPattern`: the pattern that finds the address in the README.
* `Artifact.address`: the address found there.
* `Artifact.select`: the artifacts asked for.
-/

namespace FirmwareBench

/-- An archive to fetch. -/
structure Artifact where
  /-- The short name it is asked for by. -/
  name : String
  /-- The text of the link to it. -/
  label : String
  /-- The file it is stored as. -/
  file : String
  /-- A pattern that finds its address, in place of the pattern for a link. -/
  pattern? : Option String := none
deriving DecidableEq, Repr

namespace Artifact

/-- The archives fetched if no manifest names others, in order. -/
def standard : List Artifact :=
  [{ name := "gnu", label := "GNU-Debian download link",
     file := "riscv-gnu-toolchain-debian.tar.gz" },
   { name := "llvm", label := "LLVM-Debian download link",
     file := "riscv-llvm-toolchain-debian.tar.gz" },
   { name := "eclipse", label := "WD Offical Eclipse Tested and supported",
     file := "eclipse_mcu_2019_12.tar.gz" }]

/-- The group of a link pattern that stands for the address. -/
def addressGroup : String := "url"

/-- The pattern for a link with the given label. -/
def labelPattern (label : List Char) : List Char :=
  "\\[".toList ++ Pattern.quote label ++ "\\]\\((?P<".toList ++ addressGroup.toList ++
    ">[\\w./:_]+)\\)".toList

/-- The pattern that finds the address of an artifact. -/
def linkPattern (a : Artifact) : String :=
  match a.pattern? with
  | some pattern => pattern
  | none => String.ofList (labelPattern a.label.toList)

/-- The address of an artifact according to a README. -/
def address (a : Artifact) (readme : String) : Except FetchError String :=
  match Pattern.readPattern a.linkPattern.toList with
  | .error fault => .error (.badPattern a.name fault)
  | .ok pattern =>
    match pattern.capture? addressGroup readme.toList with
    | some found => .ok (String.ofList found)
    | none => .error (.linkNotFound a.name a.label)

/-- The artifacts with one of the given names, in their own order; all of them if no name is given.
Every name given must be that of an artifact. -/
def select (artifacts : List Artifact) (only : List String) : Except FetchError (List Artifact) :=
  match only.find? fun name => !artifacts.any (·.name == name) with
  | some unknown => .error (.unknownArtifact unknown)
  | none =>
    if only.isEmpty then .ok artifacts
    else .ok (artifacts.filter fun a => only.contains a.name)

end Artifact

end FirmwareBench
