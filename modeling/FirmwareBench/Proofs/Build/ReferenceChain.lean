import FirmwareBench.Build.Expansion
import Mathlib.Data.List.Perm.Subperm
import Mathlib.Logic.Relation

/-!
# Chains of references and the depth limit

Expansion stops at a fixed depth. What it really measures is the length of the chains of references
that start in the template: `expandWithin env root levels text` gives up exactly if some chain of
`levels` defined variables starts in `text`, with an error that names `root`. A reachable cycle has
chains of every length, and in an environment with fewer variables than the limit only a cycle has a
chain that long.

## Main definitions

* `Env.IsChain`: each text on the way refers to the next variable of the chain.
* `Env.CycleReachable`: following references leads into a cycle.

## Main statements

* `error_of_expandWithin`: the error names the template that the expansion began with.
* `expandWithin_fails_iff`: expansion gives up exactly at a chain as long as its levels.
* `Env.expand_fails_iff_chain`: the template fails exactly at a chain of 33 variables, a reachable
  cycle is always reported, and in a small environment nothing else is.
-/

set_option autoImplicit false

namespace FirmwareBench

/-! ## Chains and cycles -/

namespace Env

/-- `names` is a chain of references out of a text: the text refers to the first name, the displayed
value of each name to the next one, and all the names are defined. -/
def IsChain (env : Env) : List Char → List String → Prop
  | _, [] => True
  | text, name :: rest =>
    name ∈ references text ∧ ∃ value, env.displayed? name = some value ∧ env.IsChain value.toList rest

/-- The text refers to a variable, which is defined. -/
def RefersTo (env : Env) (text : List Char) (name : String) : Prop :=
  name ∈ references text ∧ env.defines name = true

/-- The displayed value of the first variable refers to the second one, and both are defined. -/
def Leads (env : Env) (first second : String) : Prop :=
  ∃ value, env.displayed? first = some value ∧ env.RefersTo value.toList second

/-- A defined variable that the text refers to leads, in any number of steps, to a variable that
leads back to itself. -/
def CycleReachable (env : Env) (text : List Char) : Prop :=
  ∃ start knot, env.RefersTo text start ∧ Relation.ReflTransGen env.Leads start knot ∧
    Relation.TransGen env.Leads knot knot

variable {env : Env}

theorem defines_iff_displayed? {name : String} :
    env.defines name = true ↔ ∃ value, env.displayed? name = some value := by
  simp only [defines, Dict.contains, displayed?, get?, Option.isSome_iff_exists,
    Option.map_eq_some_iff]
  constructor
  · rintro ⟨value, hvalue⟩
    exact ⟨value.display, value, hvalue, rfl⟩
  · rintro ⟨_, value, hvalue, -⟩
    exact ⟨value, hvalue⟩

theorem isChain_cons {text : List Char} {name : String} {rest : List String} :
    env.IsChain text (name :: rest) ↔
      name ∈ references text ∧ ∃ value, env.displayed? name = some value ∧
        env.IsChain value.toList rest := Iff.rfl

/-- Every variable of a chain is defined. -/
theorem IsChain.defines {text : List Char} {names : List String} (h : env.IsChain text names) :
    ∀ name ∈ names, env.defines name = true := by
  induction names generalizing text with
  | nil => simp
  | cons first rest ih =>
      obtain ⟨-, value, hvalue, hrest⟩ := isChain_cons.mp h
      intro name hname
      rcases List.mem_cons.mp hname with rfl | hmem
      · exact defines_iff_displayed?.mpr ⟨value, hvalue⟩
      · exact ih hrest name hmem

/-- A chain out of a displayed value leads from its variable to each variable of the chain. -/
theorem IsChain.transGen {first : String} {value : String} {names : List String}
    (hvalue : env.displayed? first = some value) (h : env.IsChain value.toList names) :
    ∀ name ∈ names, Relation.TransGen env.Leads first name := by
  induction names generalizing first value with
  | nil => simp
  | cons second rest ih =>
      obtain ⟨href, inner, hinner, hrest⟩ := isChain_cons.mp h
      have hstep : env.Leads first second :=
        ⟨value, hvalue, href, defines_iff_displayed?.mpr ⟨inner, hinner⟩⟩
      intro name hname
      rcases List.mem_cons.mp hname with rfl | hmem
      · exact .single hstep
      · exact .head hstep (ih hinner hrest name hmem)

/-! ## Expansion gives up at a chain -/

theorem mem_references_iff {text : List Char} {name : String} :
    name ∈ references text ↔ Token.reference name ∈ scan text := by
  simp only [references, List.mem_filterMap]
  constructor
  · rintro ⟨token, hmem, htoken⟩
    cases token with
    | text c => simp at htoken
    | reference other =>
        obtain rfl : other = name := by simpa using htoken
        exact hmem
  · intro hmem
    exact ⟨.reference name, hmem, rfl⟩

end Env

section

variable {env : Env} {inner : List Char → Except BuildError (List Char)} {tokens : List Token}

/-- Where tokens are put together, the value of each defined reference has an expansion. -/
theorem exists_expanded_of_assemble {out : List Char} (h : assemble env inner tokens = .ok out)
    {name value : String} (hmem : Token.reference name ∈ tokens)
    (hvalue : env.displayed? name = some value) :
    ∃ expanded, inner value.toList = .ok expanded := by
  induction tokens generalizing out with
  | nil => cases hmem
  | cons token rest ih =>
      cases token with
      | text c =>
          obtain ⟨later, hlater, -⟩ := assemble_text_eq_ok_iff.mp h
          exact ih hlater (by simpa using hmem)
      | reference other =>
          cases hother : env.displayed? other with
          | none =>
              rw [assemble_undefined hother] at h
              rcases List.mem_cons.mp hmem with hhead | hmem
              · obtain rfl : name = other := by simpa using hhead
                simp [hvalue] at hother
              · exact ih h hmem
          | some text =>
              obtain ⟨expanded, later, hexpanded, hlater, -⟩ :=
                (assemble_defined_eq_ok_iff hother).mp h
              rcases List.mem_cons.mp hmem with hhead | hmem
              · obtain rfl : name = other := by simpa using hhead
                obtain rfl : value = text := by simpa [hvalue] using hother
                exact ⟨expanded, hexpanded⟩
              · exact ih hlater hmem

/-- The error of tokens that cannot be put together is the error of the value of one of their
references. -/
theorem exists_error_of_assemble {error : BuildError}
    (h : assemble env inner tokens = .error error) :
    ∃ name value, Token.reference name ∈ tokens ∧ env.displayed? name = some value ∧
      inner value.toList = .error error := by
  have hbehind {token : Token} {rest : List Token}
      (hrest : ∃ name value, Token.reference name ∈ rest ∧ env.displayed? name = some value ∧
        inner value.toList = .error error) :
      ∃ name value, Token.reference name ∈ token :: rest ∧ env.displayed? name = some value ∧
        inner value.toList = .error error := by
    obtain ⟨name, value, hmem, herror⟩ := hrest
    exact ⟨name, value, List.mem_cons_of_mem _ hmem, herror⟩
  induction tokens with
  | nil => cases h
  | cons token rest ih =>
      cases token with
      | text c => exact hbehind (ih (assemble_text_eq_error_iff.mp h))
      | reference name =>
          cases hname : env.displayed? name with
          | none =>
              rw [assemble_undefined hname] at h
              exact hbehind (ih h)
          | some value =>
              rcases (assemble_defined_eq_error_iff hname).mp h with hinner | ⟨-, hrest⟩
              · exact ⟨name, value, List.mem_cons_self, hname, hinner⟩
              · exact hbehind (ih hrest)

/-- Tokens cannot be put together exactly if the value of some defined reference has no expansion;
undefined references never matter. -/
theorem assemble_fails_iff :
    (∃ error, assemble env inner tokens = .error error) ↔
      ∃ name value, Token.reference name ∈ tokens ∧ env.displayed? name = some value ∧
        ∃ error, inner value.toList = .error error := by
  constructor
  · rintro ⟨error, herror⟩
    obtain ⟨name, value, hmem, hvalue, hinner⟩ := exists_error_of_assemble herror
    exact ⟨name, value, hmem, hvalue, error, hinner⟩
  · rintro ⟨name, value, hmem, hvalue, error, hinner⟩
    cases h : assemble env inner tokens with
    | error other => exact ⟨other, rfl⟩
    | ok out =>
        obtain ⟨expanded, hexpanded⟩ := exists_expanded_of_assemble h hmem hvalue
        simp [hinner] at hexpanded

end

/-- **The error goes through unchanged.** However deep it is met, it names the template that the
expansion began with. -/
theorem error_of_expandWithin {env : Env} {root : String} {levels : Nat} {text : List Char}
    {error : BuildError} (h : expandWithin env root levels text = .error error) :
    error = .expansionTooDeep root maxDepth := by
  induction levels generalizing text with
  | zero => simpa [expandWithin, eq_comm] using h
  | succ levels ih =>
      rw [expandWithin] at h
      obtain ⟨_, _, -, -, hinner⟩ := exists_error_of_assemble h
      exact ih hinner

/-- **What the levels count.** Expansion gives up exactly if a chain of as many defined variables as
there are levels starts in the text. -/
theorem expandWithin_fails_iff (env : Env) (root : String) (levels : Nat) (text : List Char) :
    (∃ error, expandWithin env root levels text = .error error) ↔
      ∃ names, names.length = levels ∧ env.IsChain text names := by
  induction levels generalizing text with
  | zero => simp [expandWithin, Env.IsChain]
  | succ levels ih =>
      -- the values in the text have one level less, as their chains have one variable less
      rw [expandWithin, assemble_fails_iff]
      constructor
      · rintro ⟨name, value, hmem, hvalue, hfails⟩
        obtain ⟨names, hlength, hchain⟩ := (ih value.toList).mp hfails
        refine ⟨name :: names, by simp [hlength], ?_⟩
        exact Env.isChain_cons.mpr ⟨Env.mem_references_iff.mpr hmem, value, hvalue, hchain⟩
      · rintro ⟨names, hlength, hchain⟩
        obtain ⟨name, rest, rfl⟩ := List.exists_cons_of_length_eq_add_one hlength
        obtain ⟨href, value, hvalue, hrest⟩ := Env.isChain_cons.mp hchain
        have hfails := (ih value.toList).mpr ⟨rest, by simpa using hlength, hrest⟩
        exact ⟨name, value, Env.mem_references_iff.mp href, hvalue, hfails⟩

/-! ## Cycles and long chains -/

namespace Env

variable {env : Env}

/-- Out of a reachable cycle there is always one more variable, whose value reaches a cycle
again. -/
theorem CycleReachable.next {text : List Char} (h : env.CycleReachable text) :
    ∃ name value, name ∈ references text ∧ env.displayed? name = some value ∧
      env.CycleReachable value.toList := by
  obtain ⟨start, knot, ⟨href, hdef⟩, hpath, hloop⟩ := h
  obtain ⟨value, hvalue⟩ := defines_iff_displayed?.mp hdef
  refine ⟨start, value, href, hvalue, ?_⟩
  -- on the cycle itself, the next step is the first one of the loop
  have hnext : ∃ next, env.Leads start next ∧ Relation.ReflTransGen env.Leads next knot := by
    rcases hpath.cases_head with rfl | hstep
    · exact Relation.TransGen.head'_iff.mp hloop
    · exact hstep
  obtain ⟨next, ⟨text', htext', hrefers⟩, hrest⟩ := hnext
  obtain rfl : value = text' := by simpa [hvalue] using htext'
  exact ⟨next, knot, hrefers, hrest, hloop⟩

/-- A reachable cycle has chains of every length. -/
theorem CycleReachable.exists_chain {text : List Char} (h : env.CycleReachable text)
    (length : Nat) : ∃ names, names.length = length ∧ env.IsChain text names := by
  induction length generalizing text with
  | zero => exact ⟨[], rfl, trivial⟩
  | succ length ih =>
      obtain ⟨name, value, href, hvalue, hcycle⟩ := h.next
      obtain ⟨names, hlength, hchain⟩ := ih hcycle
      exact ⟨name :: names, by simp [hlength], isChain_cons.mpr ⟨href, value, hvalue, hchain⟩⟩

/-- A chain that meets a variable twice reaches a cycle. -/
theorem IsChain.cycleReachable {text : List Char} {names : List String}
    (h : env.IsChain text names) (htwice : ¬ names.Nodup) : env.CycleReachable text := by
  induction names generalizing text with
  | nil => simp at htwice
  | cons first rest ih =>
      obtain ⟨href, value, hvalue, hrest⟩ := isChain_cons.mp h
      have hrefers : env.RefersTo text first := ⟨href, defines_iff_displayed?.mpr ⟨value, hvalue⟩⟩
      -- either the first variable is the one that comes again, or the rest meets one twice
      by_cases hmem : first ∈ rest
      · exact ⟨first, first, hrefers, .refl, hrest.transGen hvalue first hmem⟩
      · have hrest_twice : ¬ rest.Nodup := fun hnodup =>
          htwice (List.nodup_cons.mpr ⟨hmem, hnodup⟩)
        obtain ⟨start, knot, hstart, hpath, hloop⟩ := ih hrest hrest_twice
        exact ⟨first, knot, hrefers, .head ⟨value, hvalue, hstart⟩ hpath, hloop⟩

/-- The defined variables are the keys of the environment. -/
theorem mem_keys_of_defines {name : String} (h : env.defines name = true) :
    name ∈ env.vars.keys := by
  by_contra hmem
  have hnone : env.vars.get? name = none := Dict.lookup_eq_none_iff.mpr hmem
  simp [defines, Dict.contains, hnone] at h

/-- **Pigeonhole.** A chain with more variables than the environment has reaches a cycle. -/
theorem IsChain.cycleReachable_of_size_lt {text : List Char} {names : List String}
    (h : env.IsChain text names) (hsize : env.vars.size < names.length) :
    env.CycleReachable text := by
  refine h.cycleReachable fun hnodup => ?_
  have hsubset : names ⊆ env.vars.keys := fun name hname =>
    mem_keys_of_defines (h.defines name hname)
  have hlength : names.length ≤ env.vars.keys.length := (hnodup.subperm hsubset).length_le
  rw [Dict.keys, List.length_map] at hlength
  exact absurd hlength (by simpa [Dict.size] using hsize)

/-! ## The depth limit -/

theorem expand_eq_error_iff {template : String} {error : BuildError} :
    env.expand template = .error error ↔
      expandWithin env template (maxDepth + 1) template.toList = .error error := by
  rw [expand]
  cases expandWithin env template (maxDepth + 1) template.toList <;> simp [Except.map]

/-- **Exactness of the depth limit.** A template fails exactly if a chain of 33 defined variables
starts in it, and the error names the template itself. So a reachable cycle is always reported, and
in an environment of at most 32 variables a failure means that there is one. -/
theorem expand_fails_iff_chain (env : Env) (template : String) :
    ((∃ error, env.expand template = .error error) ↔
        ∃ names, names.length = 33 ∧ env.IsChain template.toList names) ∧
      (∀ error, env.expand template = .error error → error = .expansionTooDeep template 32) ∧
      (env.CycleReachable template.toList → ∃ error, env.expand template = .error error) ∧
      (env.vars.size ≤ 32 → (∃ error, env.expand template = .error error) →
        env.CycleReachable template.toList) := by
  have hfails : (∃ error, env.expand template = .error error) ↔
      ∃ names, names.length = 33 ∧ env.IsChain template.toList names := by
    rw [← expandWithin_fails_iff env template 33 template.toList]
    exact exists_congr fun error => expand_eq_error_iff
  refine ⟨hfails, ?_, ?_, ?_⟩
  · intro error herror
    exact error_of_expandWithin (expand_eq_error_iff.mp herror)
  · intro hcycle
    exact hfails.mpr (hcycle.exists_chain 33)
  · intro hsize hfailure
    obtain ⟨names, hlength, hchain⟩ := hfails.mp hfailure
    exact hchain.cycleReachable_of_size_lt (by omega)

/-- The error names the template, not the value that was one level too deep. -/
example : ((empty.set "A" (.text "$B")).set "B" (.text "$A")).expand "x $A" =
    .error (.expansionTooDeep "x $A" 32) := by rfl

end Env

end FirmwareBench
