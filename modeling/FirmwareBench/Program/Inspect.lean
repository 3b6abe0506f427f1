import FirmwareBench.Build.Listing
import FirmwareBench.CommandLine.Reader
import FirmwareBench.Demo.Catalog
import FirmwareBench.Program.Basic
import FirmwareBench.Toolchain.Detection
import FirmwareBench.Toolchain.Tool
set_option autoImplicit false

/-!
# The program that shows descriptions

It shows the environment that the tools make, expands templates in it, tells which tools the host
has, and shows the demos. It changes nothing.

## Main definitions

* `Inspect.Request`: what it is asked for.
* `Inspect.Request.read`: reads a command line.
* `Inspect.Request.answer`: what it prints, and whether it fails.
* `Inspect.run`: the program.
-/

namespace FirmwareBench.Inspect

open CommandLine (OptionRule Grammar Settings Refusal)

/-! ## Requests -/

/-- How the environment comes about. -/
structure Setup where
  /-- The names of the tools, in order; all tools if there are none. -/
  tools : List String
  /-- The assignments made first. -/
  assignments : List String
deriving DecidableEq, Repr

/-- What the program is asked for. -/
inductive Request where
  /-- The environment, as JSON or for people. -/
  | environment (setup : Setup) (json : Bool)
  /-- The expansion of a template. -/
  | expansion (setup : Setup) (template : String)
  /-- Which tools the host has. -/
  | availability (setup : Setup)
  | demos
  /-- One demo, as JSON or for people. -/
  | demo (name : String) (json : Bool)
deriving DecidableEq, Repr

/-! ## The command line -/

def toolRule : OptionRule := { name := "tool", taking := .values }

def assignmentRule : OptionRule := { name := "set", taking := .values }

def jsonRule : OptionRule := { name := "json" }

def setup (settings : Settings) : Setup :=
  ⟨settings.values toolRule.name, settings.values assignmentRule.name⟩

def readDemos (words : List String) : Except Refusal Request := do
  match ← CommandLine.choose false [("list", true), ("show", false)] words with
  | (true, rest) =>
    let _ ← Grammar.read { rules := [] } rest
    return .demos
  | (false, rest) =>
    let settings ← Grammar.read { rules := [jsonRule], operands := 1 } rest
    return .demo (settings.operands.headD "") (settings.has jsonRule.name)

def readEnvironment (words : List String) : Except Refusal Request := do
  let settings ← Grammar.read { rules := [toolRule, assignmentRule, jsonRule] } words
  return .environment (setup settings) (settings.has jsonRule.name)

def readExpansion (words : List String) : Except Refusal Request := do
  let settings ← Grammar.read { rules := [toolRule, assignmentRule], operands := 1 } words
  return .expansion (setup settings) (settings.operands.headD "")

def readAvailability (words : List String) : Except Refusal Request := do
  let settings ← Grammar.read { rules := [toolRule, assignmentRule] } words
  return .availability (setup settings)

/-- The commands with what reads the words after them. -/
def commands : List (String × (List String → Except Refusal Request)) :=
  [("tools", readEnvironment), ("expand", readExpansion), ("exists", readAvailability),
    ("demos", readDemos)]

/-- The word that the command line of the program begins with. -/
def leader : String := "wdfw"

def Request.read (words : List String) : Except Refusal Request := do
  let (_, words) ← CommandLine.choose false [(leader, ())] words
  let (reader, words) ← CommandLine.choose true commands words
  reader words

/-! ## Environments -/

namespace Setup

/-- The tools, in order. -/
def selected (setup : Setup) : Except BuildError (List Tool) :=
  if setup.tools.isEmpty then .ok Tool.all else setup.tools.mapM Tool.ofName

/-- The environment that the tools make on a host. -/
def environment (setup : Setup) (detect : Detector) : Except BuildError Env := do
  let env ← Env.seed setup.assignments
  return env.applyAll (← setup.selected) detect

end Setup

/-- An environment for people: its variables, then its suffix rules. -/
def environmentText (env : Env) : String :=
  String.join (env.vars.toList.map fun (key, value) => key ++ " = " ++ value.display ++ "\n") ++
    String.join (env.suffixes.toList.map fun (suffix, action) =>
      suffix ++ " -> " ++ action.title ++ "\n")

/-! ## Demos -/

/-- A line that begins with a label. -/
def labelled (label text : String) : String := Text.padTo 15 (label ++ ":") ++ text ++ "\n"

/-- All demos with their boards, one a line. -/
def demosText : String :=
  String.join (Demo.all.map fun demo =>
    Text.padTo 20 demo.name ++ ",".intercalate (demo.targets.map Board.name) ++ "\n")

def overlayText (layout : OverlayLayout) : String :=
  toString layout.cacheSize.toNat ++ " bytes (align " ++ toString layout.cacheAlignment.toNat ++
    "), storage " ++ toString layout.storageSize.toNat ++ " bytes"

def demoText (demo : Demo) : String :=
  let list (label : String) (items : List String) : String := labelled label (" ".intercalate items)
  labelled "name" demo.name ++
    (demo.groupingFile?.map (labelled "grouping file")).getD "" ++
    (demo.overlay?.map fun layout => labelled "comrv cache" (overlayText layout)).getD "" ++
    list "defines" demo.publicDefs ++ list "sconscripts" demo.buildScripts ++
    list "c flags" demo.compilerFlags ++ list "linker flags" demo.linkerFlags ++
    list "targets" (demo.targets.map Board.name)

/-! ## Availability -/

/-- Whether a host has a tool, in a line for people. -/
def availabilityLine (tool : Tool) (found : Bool) : String :=
  Text.padTo 4 tool.name ++ (if found then "found" else "missing") ++ "\n"

/-- Which tools a host has. The program fails if one is missing. -/
def availabilityAnswer (env : Env) (tools : List Tool) (detect : Detector) :
    String × Except Failure Unit :=
  let has (tool : Tool) : Bool := (tool.availability env).ask detect
  let missing := tools.filter (!has ·)
  (String.join (tools.map fun tool => availabilityLine tool (has tool)),
    if missing.isEmpty then .ok ()
    else .error { message := "missing tools: " ++ ", ".intercalate (missing.map Tool.name) })

/-! ## The program -/

/-- An answer that is a text if nothing goes wrong. -/
def textAnswer (text : Except Failure String) : String × Except Failure Unit :=
  match text with
  | .ok text => (text, .ok ())
  | .error failure => ("", .error failure)

/-- A failure of a description. -/
def descriptionFailure {α : Type} (result : Except BuildError α) : Except Failure α :=
  result.mapError fun error => { message := error.message }

/-- The expansion of a template in the environment that the tools make. -/
def expansion (setup : Setup) (template : String) (detect : Detector) : Except Failure String := do
  let env ← descriptionFailure (setup.environment detect)
  match env.expand template with
  | .ok text => return text ++ "\n"
  | .error error =>
    throw { message := "expanding \x60" ++ template ++ "\x60", cause? := some error.message }

/-- What the program prints, and whether it fails. -/
def Request.answer (detect : Detector) : Request → String × Except Failure Unit
  | environment setup json =>
    textAnswer <| (descriptionFailure (setup.environment detect)).map fun env =>
      if json then env.listing ++ "\n" else environmentText env
  | expansion setup template => textAnswer (Inspect.expansion setup template detect)
  | availability setup =>
    match descriptionFailure (do return (← Env.seed setup.assignments, ← setup.selected)) with
    | .ok (env, tools) => availabilityAnswer env tools detect
    | .error failure => ("", .error failure)
  | demos => (demosText, .ok ())
  | demo name json =>
    textAnswer <| (descriptionFailure (Demo.ofName name)).map fun demo =>
      if json then demo.listing ++ "\n" else demoText demo

def name : String := "cargo-wdfw"

def usage : String := "cargo wdfw tools|expand|exists|demos ..."

/-- The directories that the environment names for programs. -/
def programDirs (environment : Dict String) : List Path :=
  searchDirs ((environment.get? "PATH").getD "")

def run (cwd : Place) (environment : Dict String) (words : List String) (host : Host) :
    Host × Nat :=
  match Request.read words with
  | .error refusal => refuse name usage host refusal
  | .ok request =>
    let (text, result) := request.answer (host.tree.detector cwd (programDirs environment))
    conclude Failure.report (host.print text) result

end FirmwareBench.Inspect
