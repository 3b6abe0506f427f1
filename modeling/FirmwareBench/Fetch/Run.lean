import FirmwareBench.Fetch.Artifact
import FirmwareBench.Fetch.Command
import FirmwareBench.Exit
set_option autoImplicit false

/-!
# Fetching archives

The artifacts are fetched one after the other by a downloader, which may have a state of its own.
The report tells for each artifact what came of it.

## Main definitions

* `Downloader`: stores an archive at a place.
* `Policy`: what a failure means for the artifacts after it.
* `Report`: what came of each artifact.
* `fetchAll`: fetches all artifacts.
* `Downloader.printing`, `Downloader.running`: print commands, or run them.
-/

namespace FirmwareBench

/-- Stores the archive at an address under a path, and goes on to its next state. -/
abbrev Downloader (σ : Type) := σ → String → Path → σ × Except FetchError Unit

/-- What a failure means for the artifacts after it. -/
inductive Policy where
  /-- They are not fetched. -/
  | failFast
  /-- They are fetched all the same. -/
  | keepGoing
deriving DecidableEq, Repr

/-- What came of an artifact. -/
inductive Outcome where
  /-- It is stored under the path. -/
  | completed (path : Path)
  | failed (error : FetchError)
  /-- It was left out because of an earlier failure. -/
  | skipped
deriving DecidableEq, Repr

namespace Outcome

def isFailure : Outcome → Bool
  | failed _ => true
  | _ => false

def isCompleted : Outcome → Bool
  | completed _ => true
  | _ => false

end Outcome

/-- What came of each artifact, in order. -/
structure Report where
  entries : List (Artifact × Outcome)
deriving DecidableEq, Repr

namespace Report

/-- Whether all artifacts are completed. -/
def isSuccess (r : Report) : Bool := r.entries.all fun entry => entry.2.isCompleted

/-- The failed artifacts with their errors. -/
def failures (r : Report) : List (Artifact × FetchError) :=
  r.entries.filterMap fun
    | (a, .failed error) => some (a, error)
    | _ => none

/-- The outcome of the first artifact of a name. -/
def outcome? (r : Report) (name : String) : Option Outcome :=
  (r.entries.find? fun entry => entry.1.name == name).map Prod.snd

end Report

/-! ## One artifact -/

/-- Fetches one artifact: finds its address, then has it stored in the directory. -/
def fetchOne {σ : Type} (downloader : Downloader σ) (readme : String) (outDir : Path)
    (a : Artifact) (state : σ) : σ × Outcome :=
  match a.address readme with
  | .error error => (state, .failed error)
  | .ok url =>
    let dest := outDir.join (.ofString a.file)
    match downloader state url dest with
    | (state, .ok ()) => (state, .completed dest)
    | (state, .error error) => (state, .failed error)

/-! ## All artifacts -/

/-- Fetches artifacts in order; `failed` tells that an earlier one failed. -/
def fetchFrom {σ : Type} (downloader : Downloader σ) (policy : Policy) (readme : String)
    (outDir : Path) (failed : Bool) : List Artifact → σ → σ × List (Artifact × Outcome)
  | [], state => (state, [])
  | a :: rest, state =>
    let (state, outcome) :=
      if failed && policy == .failFast then (state, .skipped)
      else fetchOne downloader readme outDir a state
    let (state, entries) :=
      fetchFrom downloader policy readme outDir (failed || outcome.isFailure) rest state
    (state, (a, outcome) :: entries)

def fetchAll {σ : Type} (downloader : Downloader σ) (policy : Policy) (readme : String)
    (outDir : Path) (artifacts : List Artifact) (state : σ) : σ × Report :=
  let (state, entries) := fetchFrom downloader policy readme outDir false artifacts state
  (state, ⟨entries⟩)

/-! ## Downloaders of commands -/

namespace Downloader

/-- Runs the command for each archive. -/
def running {σ : Type} (launch : Launcher σ) (command : DownloadCommand) : Downloader σ :=
  fun state url dest =>
    match command.render url dest with
    | .error error => (state, .error error)
    | .ok arguments =>
      match launch state arguments with
      | (state, .error fault) => (state, .error (.notStarted (arguments.headD "") fault))
      | (state, .ok exit) =>
        if exit.isSuccess then (state, .ok ())
        else (state, .error (.commandFailed (" ".intercalate arguments) exit.code?))

/-- Prints the command for each archive as a line, in place of running it. -/
def printing {σ : Type} (print : σ → String → σ) (command : DownloadCommand) : Downloader σ :=
  fun state url dest =>
    match command.render url dest with
    | .error error => (state, .error error)
    | .ok arguments => (print state (" ".intercalate arguments), .ok ())

end Downloader

end FirmwareBench
