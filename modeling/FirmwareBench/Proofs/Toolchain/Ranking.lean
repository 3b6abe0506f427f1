import FirmwareBench.Proofs.Build.ReferenceChain
import FirmwareBench.Proofs.Toolchain.Written

/-!
# Ranks of variables

Where every variable has a rank and its value refers to variables of lower ranks only, a chain of
references can be no longer than the ranks are high. The variables of the tools have such ranks, of
which the highest is 3, whatever tools are applied in whatever order: no tool can close a cycle, nor
come near the depth limit.

## Main definitions

* `Env.IsRanked`: references go down.
* `Tool.rank`: the ranks of the variables of the tools.
* `Tool.RefersDown`: the value of a variable refers to variables of lower ranks.

## Main statements

* `Env.IsRanked.expand_ok`: where references go down, every template has an expansion.
* `Tool.refersDown_of_mem_written`: what a tool writes refers to lower ranks.
* `Env.isRanked_applyAll`: references go down after any tools.
* `Env.applyAll_expand_ok`: no template fails after any tools.
-/

set_option autoImplicit false

namespace FirmwareBench

/-! ## Ranked environments -/

/-- A text without `$` refers to nothing. -/
theorem references_eq_nil {text : List Char} (h : '$' ∉ text) : references text = [] := by
  induction text with
  | nil => rfl
  | cons c rest ih =>
      obtain ⟨hc, hrest⟩ : '$' ≠ c ∧ '$' ∉ rest := by simpa using h
      rw [references, scan_cons_of_ne (Ne.symm hc)]
      exact ih hrest

namespace Env

/-- The value of each variable refers to variables of lower ranks only. -/
def IsRanked (rank : String → Nat) (env : Env) : Prop :=
  ∀ name value, env.displayed? name = some value →
    ∀ inner ∈ references value.toList, rank inner < rank name

variable {rank : String → Nat} {env : Env}

/-- A chain out of the value of a variable is no longer than the rank of the variable. -/
theorem IsRanked.length_le (h : IsRanked rank env) {name value : String} {names : List String}
    (hvalue : env.displayed? name = some value) (hchain : env.IsChain value.toList names) :
    names.length ≤ rank name := by
  induction names generalizing name value with
  | nil => exact Nat.zero_le _
  | cons second rest ih =>
      obtain ⟨href, inner, hinner, hrest⟩ := isChain_cons.mp hchain
      have hlower : rank second < rank name := h name value hvalue second href
      have hlength : rest.length ≤ rank second := ih hinner hrest
      rw [List.length_cons]
      omega

/-- A chain out of a template has one variable more than the highest rank at most. -/
theorem IsRanked.chain_length_le (h : IsRanked rank env) {bound : Nat}
    (hbound : ∀ name, rank name ≤ bound) {text : List Char} {names : List String}
    (hchain : env.IsChain text names) : names.length ≤ bound + 1 := by
  cases names with
  | nil => exact Nat.zero_le _
  | cons first rest =>
      obtain ⟨-, value, hvalue, hrest⟩ := isChain_cons.mp hchain
      have hlength : rest.length ≤ rank first := h.length_le hvalue hrest
      have hfirst : rank first ≤ bound := hbound first
      rw [List.length_cons]
      omega

/-- Where references go down, there is no cycle. -/
theorem IsRanked.not_cycleReachable (h : IsRanked rank env) {bound : Nat}
    (hbound : ∀ name, rank name ≤ bound) (text : List Char) : ¬ env.CycleReachable text := by
  intro hcycle
  obtain ⟨names, hlength, hchain⟩ := hcycle.exists_chain (bound + 2)
  have hle : names.length ≤ bound + 1 := h.chain_length_le hbound hchain
  omega

/-- **Where references go down, every template has an expansion**, as long as the ranks stay below
the depth limit. -/
theorem IsRanked.expand_ok (h : IsRanked rank env) {bound : Nat}
    (hbound : ∀ name, rank name ≤ bound) (hdepth : bound < maxDepth) (template : String) :
    ∃ text, env.expand template = .ok text := by
  cases hexpand : env.expand template with
  | ok text => exact ⟨text, rfl⟩
  | error error =>
      have hfails := expand_eq_error_iff.mp hexpand
      obtain ⟨names, hlength, hchain⟩ := (expandWithin_fails_iff _ _ _ _).mp ⟨error, hfails⟩
      have hle : names.length ≤ bound + 1 := h.chain_length_le hbound hchain
      omega

end Env

/-! ## The ranks of the variables of the tools -/

namespace Tool

/-- The ranks of variables: programs and what stands for flags, then command lines, and the command
line that holds another program by its name. All others have values without references. -/
def rank (name : String) : Nat :=
  if name = "SHCCCOM" then 3
  else if name ∈ ["ARCOM", "RANLIBCOM", "ASCOM", "ASPPCOM", "CCCOM", "SHCC"] then 2
  else if name ∈ ["AR", "RANLIB", "AS", "CC", "ASPPFLAGS", "SHCFLAGS", "SHCCFLAGS", "_CCCOMCOM",
    "LINKCOM"] then 1
  else 0

theorem rank_le (name : String) : rank name ≤ 3 := by
  unfold rank
  split
  · exact Nat.le_refl 3
  · split
    · decide
    · split <;> decide

/-- A value of a variable refers to variables of lower ranks than its own only. -/
def RefersDown (name : String) (value : Value) : Prop :=
  ∀ inner ∈ references value.display.toList, rank inner < rank name

instance (name : String) (value : Value) : Decidable (RefersDown name value) :=
  inferInstanceAs (Decidable (∀ inner ∈ references value.display.toList, rank inner < rank name))

theorem refersDown_of_mem_fixedVars : ∀ e ∈ fixedVars, RefersDown e.1 e.2 := by
  decide +kernel

/-- This holds whichever of the shared variables are left out, and on every platform. -/
theorem refersDown_of_mem_shared {env : Env} {e : String × Value}
    (h : e ∈ sharedCompilerVars env) : RefersDown e.1 e.2 := by
  have hguarded {guard : Bool} {list : List (String × Value)}
      (hmem : e ∈ if guard then [] else list) : e ∈ list := by
    cases guard <;> simp_all
  simp only [sharedCompilerVars, List.mem_append] at h
  rcases h with (hcommon | hflags) | hflags
  · have hmem := hguarded hcommon
    simp only [List.mem_cons, List.not_mem_nil, or_false] at hmem
    rcases hmem with rfl | rfl | rfl
    · split <;> decide +kernel
    · decide +kernel
    · decide +kernel
  · obtain rfl := List.mem_singleton.mp (hguarded hflags)
    decide +kernel
  · obtain rfl := List.mem_singleton.mp (hguarded hflags)
    decide +kernel

/-- **What a tool writes refers to variables of lower ranks only.** -/
theorem refersDown_of_mem_written {tool : Tool} {env : Env} {detect : Detector} {name : String}
    {value : Value} (h : (name, value) ∈ tool.written env detect) : RefersDown name value := by
  rcases mem_written h with hfixed | ⟨-, hshared⟩
  · exact refersDown_of_mem_fixedVars _ hfixed
  · exact refersDown_of_mem_shared hshared

end Tool

/-! ## Environments after tools -/

namespace Env

/-- **References go down after any tools**, where the variables at the start refer to nothing. A
variable has the value of a tool or the one from the start, whoever came first. -/
theorem isRanked_applyAll {seed : Env}
    (hseed : ∀ name value, seed.displayed? name = some value → '$' ∉ value.toList)
    (tools : List Tool) (detect : Detector) :
    IsRanked Tool.rank (seed.applyAll tools detect) := by
  intro name text htext
  obtain ⟨value, hvalue, rfl⟩ := Option.map_eq_some_iff.mp htext
  rcases (holds_applyAll seed tools detect name value).mp hvalue with
    ⟨tool, -, hwritten⟩ | ⟨-, hbefore⟩
  · exact Tool.refersDown_of_mem_written hwritten
  · have hplain : '$' ∉ value.display.toList :=
      hseed name value.display (Option.map_eq_some_iff.mpr ⟨value, hbefore, rfl⟩)
    simp [references_eq_nil hplain]

/-- **No template fails after any tools**, in whatever order and however often they are applied, if
the variables at the start refer to nothing; these may be any variables, also those that the tools
own or look at. No template reaches a cycle, and no chain of references has more than four
variables. -/
theorem applyAll_expand_ok (seed : Env)
    (hseed : ∀ name value, seed.displayed? name = some value → '$' ∉ value.toList)
    (tools : List Tool) (detect : Detector) (template : String) :
    (∃ text, (seed.applyAll tools detect).expand template = .ok text) ∧
      ¬ (seed.applyAll tools detect).CycleReachable template.toList ∧
      ∀ names, (seed.applyAll tools detect).IsChain template.toList names → names.length ≤ 4 := by
  have hranked : IsRanked Tool.rank (seed.applyAll tools detect) :=
    isRanked_applyAll hseed tools detect
  refine ⟨hranked.expand_ok Tool.rank_le (by decide) template,
    hranked.not_cycleReachable Tool.rank_le template.toList, ?_⟩
  intro names hchain
  exact hranked.chain_length_le Tool.rank_le hchain

/-- The start defines a guard of the compiler, the platform it looks at, and a command line that it
writes anew. -/
theorem applyAll_expand_ok_darwin :
    let seed := ((empty.set "PLATFORM" (.text "darwin")).set "CCFLAGS" (.items ["-O2", "-g"])).set
      "SHCCCOM" (.number 7)
    let env := seed.applyAll [.compiler, .archiver, .assembler, .compiler] List.head?
    let template := "$SHCCCOM $\x7bASPPCOM\x7d $$"
    (∀ name value, seed.displayed? name = some value → '$' ∉ value.toList) ∧
      (∃ text, env.expand template = .ok text) ∧ ¬ env.CycleReachable template.toList ∧
      ∀ names, env.IsChain template.toList names → names.length ≤ 4 := by
  intro seed env template
  have hseed : ∀ name value, seed.displayed? name = some value → '$' ∉ value.toList := by
    have hall : ∀ e ∈ seed.vars.entries, '$' ∉ e.2.display.toList := by decide
    intro name text htext
    obtain ⟨value, hvalue, rfl⟩ := Option.map_eq_some_iff.mp htext
    exact hall (name, value) (Dict.mem_of_lookup_eq_some hvalue)
  exact ⟨hseed, applyAll_expand_ok seed hseed _ List.head? template⟩

end Env

end FirmwareBench
