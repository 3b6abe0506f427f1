import FirmwareBench.Build.Error
import FirmwareBench.Build.Value
import FirmwareBench.Dict
import FirmwareBench.Text.Blank
import FirmwareBench.Text.Cut
set_option autoImplicit false

/-!
# The build environment

A build environment maps construction variables to values and source suffixes to the action that
builds such a source. A tool never writes into it: it makes a contribution, and the environment is
merged with that.

## Main definitions

* `Env`: variables and suffix rules.
* `Contribution`: the variables and suffix rules one tool brings along.
* `Env.assign`, `Env.seed`: `KEY=VALUE` assignments, one and many.
* `Env.merge`: takes over a contribution, which wins over what was there.
-/

namespace FirmwareBench

/-- What is done with a source file of a given suffix. -/
inductive Action where
  /-- Assembled as it is. -/
  | assemble
  /-- Run through the preprocessor, then assembled. -/
  | assemblePreprocessed
  | compile
deriving DecidableEq, Repr, Inhabited

/-- The word an action has in a listing for programs. -/
def Action.word : Action → String
  | assemble => "assemble"
  | assemblePreprocessed => "assemble-preprocessed"
  | compile => "compile"

/-- The title an action has in a listing for people. -/
def Action.title : Action → String
  | assemble => "Assemble"
  | assemblePreprocessed => "AssemblePreprocessed"
  | compile => "Compile"

/-- Variables and suffix rules contributed by one tool. -/
structure Contribution where
  vars : Dict Value
  /-- Suffixes claimed. -/
  suffixes : Dict Action

/-- The construction variables and suffix rules of a build. -/
structure Env where
  vars : Dict Value
  /-- The action of each claimed suffix. -/
  suffixes : Dict Action
deriving DecidableEq

namespace Env

def empty : Env := ⟨.empty, .empty⟩

instance : Inhabited Env := ⟨empty⟩

def get? (env : Env) (key : String) : Option Value := env.vars.get? key

def defines (env : Env) (key : String) : Bool := env.vars.contains key

def displayed? (env : Env) (key : String) : Option String := (env.get? key).map Value.display

def actionFor? (env : Env) (suffix : String) : Option Action := env.suffixes.get? suffix

def set (env : Env) (key : String) (value : Value) : Env :=
  { env with vars := env.vars.insert key value }

/-- Key and value of a `KEY=VALUE` text: what stands before the first `=` without outer blanks, which
must not be empty, and everything after it. -/
def readAssignment? (text : String) : Option (String × String) :=
  match Text.cutAt? '=' text.toList with
  | none => none
  | some (key, value) =>
    let key := Text.trim key
    if key.isEmpty then none else some (String.ofList key, String.ofList value)

/-- Performs a `KEY=VALUE` assignment. -/
def assign (env : Env) (text : String) : Except BuildError Env :=
  match readAssignment? text with
  | some (key, value) => .ok (env.set key (.text value))
  | none => .error (.invalidAssignment text)

/-- The environment after the given assignments, made in order; the first bad one is reported. -/
def seed (assignments : List String) : Except BuildError Env :=
  assignments.foldlM assign empty

/-- Writes every variable and suffix rule of a contribution. -/
def merge (env : Env) (c : Contribution) : Env :=
  ⟨env.vars.union c.vars, env.suffixes.union c.suffixes⟩

@[simp] theorem set_suffixes (env : Env) (key : String) (value : Value) :
    (env.set key value).suffixes = env.suffixes := rfl

theorem get?_set (env : Env) (key : String) (value : Value) (k : String) :
    (env.set key value).get? k = if k = key then some value else env.get? k :=
  Dict.get?_insert env.vars key value k

/-- Writing a variable leaves the displayed values of the others. -/
theorem displayed?_set_of_ne {key name : String} (h : name ≠ key) (env : Env) (value : Value) :
    (env.set key value).displayed? name = env.displayed? name := by
  rw [displayed?, get?_set, if_neg h, ← displayed?]

theorem get?_merge (env : Env) (c : Contribution) (key : String) :
    (env.merge c).get? key = (c.vars.get? key).or (env.get? key) :=
  Dict.get?_union env.vars c.vars key

theorem actionFor?_merge (env : Env) (c : Contribution) (suffix : String) :
    (env.merge c).actionFor? suffix = (c.suffixes.get? suffix).or (env.actionFor? suffix) :=
  Dict.get?_union env.suffixes c.suffixes suffix

end Env

end FirmwareBench
