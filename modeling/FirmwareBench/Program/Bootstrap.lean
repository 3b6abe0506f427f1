import FirmwareBench.CommandLine.Reader
import FirmwareBench.Fetch.Command
import FirmwareBench.Fetch.Manifest
import FirmwareBench.Fetch.Run
import FirmwareBench.Program.Basic
set_option autoImplicit false

/-!
# The program that fetches archives

It finds the addresses of the archives in the README and has each archive stored by the download
command. Before anything is changed it reads all that it needs.

## Main definitions

* `Bootstrap.Order`: what it is asked for.
* `Bootstrap.Order.read`: reads a command line.
* `Bootstrap.Order.prepare`: reads what is needed.
* `Bootstrap.Order.perform`: fetches the archives.
* `Bootstrap.run`: the program.
-/

namespace FirmwareBench.Bootstrap

open CommandLine (OptionRule Grammar Refusal isPath)

/-- What the program is asked for. -/
structure Order where
  readme : Path
  /-- Where the archives are stored. -/
  outDir : Path
  /-- What fetches an archive. -/
  command : DownloadCommand
  /-- The manifest that names the archives. -/
  manifest? : Option Path := none
  /-- The names of the archives to fetch; all of them if there are none. -/
  only : List String := []
  policy : Policy := .failFast
  /-- The commands are printed in place of being run. -/
  dryRun : Bool := false
deriving DecidableEq, Repr

/-! ## The command line -/

def readmeRule : OptionRule := { name := "readme", taking := .value, accepts := isPath }

def outDirRule : OptionRule := { name := "out-dir", taking := .value, accepts := isPath }

def downloaderRule : OptionRule := { name := "downloader", taking := .value }

def manifestRule : OptionRule := { name := "manifest", taking := .value, accepts := isPath }

def onlyRule : OptionRule := { name := "only", taking := .values }

def keepGoingRule : OptionRule := { name := "keep-going" }

def dryRunRule : OptionRule := { name := "dry-run" }

def grammar : Grammar where
  rules :=
    [readmeRule, outDirRule, downloaderRule, manifestRule, onlyRule, keepGoingRule, dryRunRule]
  versioned := true

/-- The README that is read if no other is given. -/
def standardReadme : String := "README.md"

/-- Where archives are stored if nothing is said about it. -/
def standardOutDir : String := "."

namespace Order

/-- Reads a command line. Variables of the environment stand for options that are not given. -/
def read (environment : Dict String) (words : List String) : Except Refusal Order := do
  let settings ← grammar.read words
  let readme ← settings.valueOr environment readmeRule "WDFW_README" standardReadme
  let outDir ← settings.valueOr environment outDirRule "WDFW_OUT_DIR" standardOutDir
  let template ← settings.valueOr environment downloaderRule "WDFW_DOWNLOADER"
    DownloadCommand.standard.template
  return {
    readme := .ofString readme
    outDir := .ofString outDir
    command := ⟨template⟩
    manifest? := (settings.value? manifestRule.name).map .ofString
    only := settings.values onlyRule.name
    policy := if settings.has keepGoingRule.name then .keepGoing else .failFast
    dryRun := settings.has dryRunRule.name }

/-! ## Preparation -/

/-- The artifacts to fetch and the text of the README. -/
def gather (order : Order) (tree : FileTree) (cwd : Place) :
    Except FetchError (List Artifact × String) := do
  let known ← match order.manifest? with
    | some path => Manifest.load tree cwd path
    | none => .ok Artifact.standard
  let artifacts ← Artifact.select known order.only
  let readme ← readReadme tree cwd order.readme
  return (artifacts, readme)

/-- Gathers what is needed, then makes the directory unless nothing is to be run. -/
def prepare (order : Order) (cwd : Place) (host : Host) :
    Host × Except Failure (List Artifact × String) :=
  match order.gather host.tree cwd with
  | .error error => (host, .error ⟨error.message, error.cause?⟩)
  | .ok gathered =>
    if order.dryRun then (host, .ok gathered)
    else
      match host.tree.makeDirectories cwd order.outDir with
      | (tree, .ok ()) => ({ host with tree }, .ok gathered)
      | (tree, .error fault) =>
        ({ host with tree },
          .error ⟨"creating " ++ order.outDir.text, some fault.message⟩)

/-! ## Fetching -/

/-- What came of an artifact, for people. -/
def outcomeText : Outcome → String
  | .completed path => "ok      " ++ path.text
  | .failed error => "failed  " ++ error.message
  | .skipped => "skipped"

/-- A report for people, a line for each artifact. -/
def reportText (report : Report) : String :=
  String.join (report.entries.map fun (artifact, outcome) =>
    Text.padTo 8 artifact.name ++ outcomeText outcome ++ "\n")

/-- What a report means for the program. -/
def verdict (report : Report) : Except Failure Unit :=
  match report.failures.length with
  | 0 => .ok ()
  | failed =>
    .error { message := toString failed ++ " of " ++ toString report.entries.length ++
               " artifacts failed" }

/-- What stores the archives, or prints how that is done. -/
def downloader (order : Order) (launch : Launcher Host) : Downloader Host :=
  if order.dryRun then .printing (fun host line => host.print (line ++ "\n")) order.command
  else .running launch order.command

/-- Does what is asked for. -/
def perform (order : Order) (launch : Launcher Host) (cwd : Place) (host : Host) :
    Host × Except Failure Unit :=
  match order.prepare cwd host with
  | (host, .error failure) => (host, .error failure)
  | (host, .ok (artifacts, readme)) =>
    let (host, report) :=
      fetchAll (order.downloader launch) order.policy readme order.outDir artifacts host
    (host.print (reportText report), verdict report)

end Order

/-! ## The program -/

def name : String := "wdfw-bootstrap"

def usage : String := "wdfw-bootstrap [OPTIONS]"

def run (launch : Launcher Host) (cwd : Place) (environment : Dict String) (words : List String)
    (host : Host) : Host × Nat :=
  match Order.read environment words with
  | .error refusal => refuse name usage host refusal
  | .ok order =>
    let (host, result) := order.perform launch cwd host
    conclude Failure.report host result

end FirmwareBench.Bootstrap
