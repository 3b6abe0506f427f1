import FirmwareBench.Proofs.Build.ReferenceChain

/-!
# What an expansion depends on

An expansion looks at the variables that can be reached from the template by following references
through displayed values, and at nothing else. Environments that agree on these give the same
result, whether it is a text or an error; the graph of references may have cycles.

## Main definitions

* `Env.Reaches`: the variables that following references from a text comes to.
* `Env.AgreesFrom`: two environments have the same displayed values for these.

## Main statements

* `expandWithin_of_agreesFrom`: environments that agree from a text on expand it alike.
* `Env.expand_of_agreesFrom`: what that means for templates, and for variables that are not reached.
-/

set_option autoImplicit false

namespace FirmwareBench

namespace Env

/-- The variables that following references from a text comes to, whether they are defined or not. -/
inductive Reaches (env : Env) : List Char → String → Prop
  /-- The text refers to the variable. -/
  | direct {text : List Char} {name : String} (href : name ∈ references text) :
      env.Reaches text name
  /-- The text refers to a variable whose displayed value reaches it. -/
  | through {text : List Char} {name value other : String} (href : name ∈ references text)
      (hvalue : env.displayed? name = some value) (hrest : env.Reaches value.toList other) :
      env.Reaches text other

/-- On every variable reached from the text in the first environment the second one agrees with it:
both leave it undefined, or both display the same. -/
def AgreesFrom (env other : Env) (text : List Char) : Prop :=
  ∀ name, env.Reaches text name → other.displayed? name = env.displayed? name

variable {env other : Env}

/-- Every variable reached is in a list that has the references of the text and, with each of its
names, the references of the displayed value. -/
theorem Reaches.mem {text : List Char} {name : String} (h : env.Reaches text name)
    {names : List String} (htext : references text ⊆ names)
    (hclosed : ∀ next ∈ names, ∀ value ∈ env.displayed? next, references value.toList ⊆ names) :
    name ∈ names := by
  induction h with
  | direct href => exact htext href
  | through href hvalue _ ih => exact ih (hclosed _ (htext href) _ hvalue)

/-- The displayed value of a variable that the text refers to agrees as well. -/
theorem AgreesFrom.value {text : List Char} {name value : String} (h : env.AgreesFrom other text)
    (href : name ∈ references text) (hvalue : env.displayed? name = some value) :
    env.AgreesFrom other value.toList := by
  intro next hnext
  exact h next (.through href hvalue hnext)

/-- Environments that agree from a text on reach the same variables. -/
theorem AgreesFrom.reaches_iff {text : List Char} (h : env.AgreesFrom other text) {name : String} :
    other.Reaches text name ↔ env.Reaches text name := by
  constructor
  · intro hreaches
    induction hreaches with
    | direct href => exact .direct href
    | @through text first value last href hvalue _ ih =>
        have hsame : env.displayed? first = some value := by rw [← h first (.direct href), hvalue]
        exact .through href hsame (ih (h.value href hsame))
  · intro hreaches
    induction hreaches with
    | direct href => exact .direct href
    | @through text first value last href hvalue _ ih =>
        have hsame : other.displayed? first = some value := by rw [h first (.direct href), hvalue]
        exact .through href hsame (ih (h.value href hvalue))

end Env

/-! ## Environments that agree -/

/-- Tokens are put together alike if their references have the same displayed values, and these the
same expansions. -/
theorem assemble_congr {env other : Env}
    {inner inner' : List Char → Except BuildError (List Char)}
    {tokens : List Token}
    (hdisplayed : ∀ name, Token.reference name ∈ tokens →
      other.displayed? name = env.displayed? name)
    (hinner : ∀ name value, Token.reference name ∈ tokens → env.displayed? name = some value →
      inner' value.toList = inner value.toList) :
    assemble other inner' tokens = assemble env inner tokens := by
  induction tokens with
  | nil => rfl
  | cons token rest ih =>
      have hrest : assemble other inner' rest = assemble env inner rest :=
        ih (fun name hname => hdisplayed name (List.mem_cons_of_mem _ hname))
          fun name value hname => hinner name value (List.mem_cons_of_mem _ hname)
      cases token with
      | text c => rw [assemble_text, assemble_text, hrest]
      | reference name =>
          have hname := hdisplayed name List.mem_cons_self
          cases hvalue : env.displayed? name with
          | none =>
              rw [hvalue] at hname
              rw [assemble_undefined hname, assemble_undefined hvalue, hrest]
          | some value =>
              rw [hvalue] at hname
              rw [assemble_defined hname, assemble_defined hvalue, hrest,
                hinner name value List.mem_cons_self hvalue]

/-- **Environments that agree from a text on expand it alike**, within any number of levels. -/
theorem expandWithin_of_agreesFrom {env other : Env} (root : String) (levels : Nat)
    {text : List Char} (h : env.AgreesFrom other text) :
    expandWithin other root levels text = expandWithin env root levels text := by
  induction levels generalizing text with
  | zero => rfl
  | succ levels ih =>
      -- what is reached from a value is reached from the text, so the values have agreement too
      refine assemble_congr ?_ ?_
      · intro name hname
        exact h name (.direct (Env.mem_references_iff.mpr hname))
      · intro name value hname hvalue
        exact ih (h.value (Env.mem_references_iff.mpr hname) hvalue)

namespace Env

variable {env : Env}

/-- Writing a variable that is not reached leaves the ones that are. -/
theorem agreesFrom_set {text : List Char} {key : String} (hkey : ¬ env.Reaches text key)
    (value : Value) : env.AgreesFrom (env.set key value) text := by
  intro name hname
  have hne : name ≠ key := by
    rintro rfl
    exact hkey hname
  exact displayed?_set_of_ne hne env value

/-- Merging variables that are not reached leaves the ones that are. -/
theorem agreesFrom_merge {text : List Char} {c : Contribution}
    (hkeys : ∀ key, env.Reaches text key → c.vars.get? key = none) :
    env.AgreesFrom (env.merge c) text := by
  intro name hname
  rw [displayed?, get?_merge, hkeys name hname, Option.none_or, ← displayed?]

/-- **An expansion depends only on what is reachable.** An environment that agrees with another one
on all that is reached from a template gives the same result for it, the error included, and reaches
the same variables. So nothing changes where a variable that is not reached is written, with a value
of any kind, where a contribution without reachable variables is merged, or where the suffix rules
are others. -/
theorem expand_of_agreesFrom (env : Env) (template : String) :
    (∀ other : Env, env.AgreesFrom other template.toList →
      other.expand template = env.expand template ∧
        ∀ name, other.Reaches template.toList name ↔ env.Reaches template.toList name) ∧
    (∀ key value, ¬ env.Reaches template.toList key →
      (env.set key value).expand template = env.expand template) ∧
    (∀ c : Contribution, (∀ key, env.Reaches template.toList key → c.vars.get? key = none) →
      (env.merge c).expand template = env.expand template) ∧
    ∀ suffixes, Env.expand { env with suffixes } template = env.expand template := by
  have hexpand : ∀ other : Env, env.AgreesFrom other template.toList →
      other.expand template = env.expand template := by
    intro other hagrees
    rw [expand, expandWithin_of_agreesFrom template (maxDepth + 1) hagrees, ← expand]
  refine ⟨?_, ?_, ?_, ?_⟩
  · intro other hagrees
    exact ⟨hexpand other hagrees, fun _ => AgreesFrom.reaches_iff hagrees⟩
  · intro key value hkey
    exact hexpand _ (agreesFrom_set hkey value)
  · intro c hkeys
    exact hexpand _ (agreesFrom_merge hkeys)
  · intro suffixes
    exact hexpand _ fun _ _ => rfl

/-- A compiler in a directory, with a reference to a variable that is not defined. -/
def compilerEnv : Env :=
  (empty.set "CC" (.text "$DIR/clang $\x7bNONE\x7d")).set "DIR" (.items ["/opt", "llvm"])

/-- A cycle beside the compiler is not noticed, nor is a list that turns into a text. -/
theorem expand_of_agreesFrom_compilerEnv :
    (¬ compilerEnv.Reaches "$CC -c".toList "LOOP" ∧
      (compilerEnv.set "LOOP" (.text "$LOOP")).expand "$CC -c" = compilerEnv.expand "$CC -c") ∧
    (compilerEnv.AgreesFrom (compilerEnv.set "DIR" (.text "/opt llvm")) "$CC -c".toList ∧
      (compilerEnv.set "DIR" (.text "/opt llvm")).expand "$CC -c" =
        compilerEnv.expand "$CC -c") ∧
    compilerEnv.expand "$CC -c" = .ok "/opt llvm/clang -c" := by
  have hloop : ¬ compilerEnv.Reaches "$CC -c".toList "LOOP" := by
    intro h
    have hmem : "LOOP" ∈ ["CC", "DIR", "NONE"] := h.mem (by decide) (by decide)
    exact absurd hmem (by decide)
  have hagrees : compilerEnv.AgreesFrom (compilerEnv.set "DIR" (.text "/opt llvm"))
      "$CC -c".toList := by
    intro name _
    by_cases hname : name = "DIR"
    · subst hname
      rfl
    · exact displayed?_set_of_ne hname _ _
  obtain ⟨hsame, hset, -⟩ := expand_of_agreesFrom compilerEnv "$CC -c"
  exact ⟨⟨hloop, hset "LOOP" _ hloop⟩, ⟨hagrees, (hsame _ hagrees).1⟩, by rfl⟩

end Env

end FirmwareBench
