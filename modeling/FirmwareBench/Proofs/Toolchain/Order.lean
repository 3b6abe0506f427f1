import FirmwareBench.Proofs.Toolchain.Written

/-!
# The order of tools

The variables after several tools are a matter of which tools there were, not of their order or of
how often each was applied. Of the suffixes, some belong to the assembler and to the compiler; these
go to the one applied last, and order matters for nothing else.

## Main definitions

* `Tool.AppliedLast`: the one of the assembler and the compiler that is applied last.

## Main statements

* `Env.actionFor?_applyAll`: the last tool that claims a suffix decides on its action.
* `Env.applyAll_order_independent`: what does not depend on the order, and what does.
-/

set_option autoImplicit false

namespace FirmwareBench

/-! ## Searching in any order -/

/-- Where an element of a list gives a result, and no other element gives another one, a search
finds it. -/
theorem findSome?_eq_some_iff_of_agree {α β : Type} {f : α → Option β} {list : List α}
    (hagree : ∀ a ∈ list, ∀ a' ∈ list, ∀ b b', f a = some b → f a' = some b' → b = b') {b : β} :
    list.findSome? f = some b ↔ ∃ a ∈ list, f a = some b := by
  constructor
  · exact List.exists_of_findSome?_eq_some
  · rintro ⟨a, ha, hb⟩
    cases hfind : list.findSome? f with
    | none =>
        rw [List.findSome?_eq_none_iff] at hfind
        rw [hfind a ha] at hb
        cases hb
    | some b' =>
        obtain ⟨a', ha', hb'⟩ := List.exists_of_findSome?_eq_some hfind
        rw [hagree a ha a' ha' b b' hb hb']

/-- Where no two elements give different results, a search does not depend on the order. -/
theorem findSome?_eq_of_agree {α β : Type} {f : α → Option β} {first second : List α}
    (hsame : ∀ a, a ∈ first ↔ a ∈ second)
    (hagree : ∀ a ∈ first, ∀ a' ∈ first, ∀ b b', f a = some b → f a' = some b' → b = b') :
    first.findSome? f = second.findSome? f := by
  have hagree' : ∀ a ∈ second, ∀ a' ∈ second, ∀ b b', f a = some b → f a' = some b' → b = b' :=
    fun a ha a' ha' => hagree a ((hsame a).mpr ha) a' ((hsame a').mpr ha')
  refine Option.ext fun b => ?_
  rw [findSome?_eq_some_iff_of_agree hagree, findSome?_eq_some_iff_of_agree hagree']
  simp only [hsame]

/-! ## The tool applied last -/

namespace Tool

/-- Of the assembler and the compiler, the tool is the one that is applied last. -/
def AppliedLast (tools : List Tool) (tool : Tool) : Prop :=
  tool ≠ archiver ∧ ∃ front back, tools = front ++ tool :: back ∧ ∀ later ∈ back, later = archiver

variable {tools : List Tool} {tool : Tool} {suffix : String} {action : Action}

/-- Among tools that include the assembler or the compiler, one of the two is applied last. -/
theorem exists_appliedLast (hmem : tool ∈ tools) (htool : tool ≠ archiver) :
    ∃ last, AppliedLast tools last := by
  induction tools using List.reverseRecOn with
  | nil => simp at hmem
  | append_singleton tools last ih =>
      by_cases hlast : last = archiver
      · subst hlast
        have hbefore : tool ∈ tools := by simpa [htool] using hmem
        obtain ⟨found, hfound, front, back, rfl, hback⟩ := ih hbefore
        refine ⟨found, hfound, front, back ++ [archiver], by simp, ?_⟩
        intro later hlater
        rcases List.mem_append.mp hlater with hlater | hlater
        · exact hback later hlater
        · exact List.mem_singleton.mp hlater
      · exact ⟨last, hlast, tools, [], rfl, by simp⟩

/-- What is applied last in one round is applied last in two. -/
theorem AppliedLast.append (h : AppliedLast tools tool) (before : List Tool) :
    AppliedLast (before ++ tools) tool := by
  obtain ⟨htool, front, back, rfl, hback⟩ := h
  exact ⟨htool, before ++ front, back, by simp, hback⟩

/-- A suffix that the tool applied last claims is found there first. -/
theorem AppliedLast.findSome?_rules (h : AppliedLast tools tool)
    (hclaim : tool.rules.get? suffix = some action) :
    tools.reverse.findSome? (·.rules.get? suffix) = some action := by
  obtain ⟨-, front, back, rfl, hback⟩ := h
  have hnone : back.reverse.findSome? (·.rules.get? suffix) = none := by
    rw [List.findSome?_eq_none_iff]
    intro later hlater
    rw [hback later (List.mem_reverse.mp hlater)]
    rfl
  simp [List.findSome?_append, hnone, hclaim]

/-- Two tools that do not agree about a suffix are the assembler and the compiler. -/
theorem eq_or_eq_of_disagree {other : Tool} {action' : Action}
    (hclaim : tool.rules.get? suffix = some action)
    (hclaim' : other.rules.get? suffix = some action') (hne : action ≠ action') {last : Tool}
    (hlast : last ≠ archiver) : last = tool ∨ last = other := by
  have hdistinct : tool ≠ other := by
    rintro rfl
    exact hne (Option.some.inj (hclaim.symm.trans hclaim'))
  -- the archiver claims nothing, so neither of the two is it
  have htool : tool ≠ archiver := by
    rintro rfl
    cases hclaim
  have hother : other ≠ archiver := by
    rintro rfl
    cases hclaim'
  cases last <;> cases tool <;> cases other <;> simp_all

end Tool

namespace Env

variable {env : Env} {detect : Detector}

theorem actionFor?_apply (env : Env) (tool : Tool) (detect : Detector) (suffix : String) :
    (env.apply tool detect).actionFor? suffix =
      (tool.rules.get? suffix).or (env.actionFor? suffix) := by
  rw [← tool.contribution_suffixes env detect]
  exact Dict.get?_union env.suffixes _ suffix

theorem eq_of_parts {first second : Env} (hvars : first.vars = second.vars)
    (hsuffixes : first.suffixes = second.suffixes) : first = second := by
  cases first
  cases second
  exact congrArg₂ mk hvars hsuffixes

/-- **The last tool that claims a suffix decides.** -/
theorem actionFor?_applyAll (env : Env) (tools : List Tool) (detect : Detector) (suffix : String) :
    (env.applyAll tools detect).actionFor? suffix =
      (tools.reverse.findSome? (·.rules.get? suffix)).or (env.actionFor? suffix) := by
  induction tools generalizing env with
  | nil => rfl
  | cons tool rest ih =>
      have hrest : (env.applyAll (tool :: rest) detect).actionFor? suffix =
          (rest.reverse.findSome? (·.rules.get? suffix)).or
            ((env.apply tool detect).actionFor? suffix) := ih (env.apply tool detect)
      rw [hrest, actionFor?_apply, List.reverse_cons, List.findSome?_append,
        List.findSome?_singleton, Option.or_assoc]

/-- Which tool comes when matters for no variable. -/
theorem vars_applyAll_eq {first second : List Tool}
    (hsame : ∀ tool, tool ∈ first ↔ tool ∈ second) :
    (env.applyAll first detect).vars = (env.applyAll second detect).vars := by
  refine Dict.ext_get? fun key => Option.ext fun value => ?_
  -- what the variables hold is told by the tools that there are
  have hfirst := holds_applyAll env first detect key value
  have hsecond := holds_applyAll env second detect key value
  simp only [hsame] at hfirst
  exact hfirst.trans hsecond.symm

/-- The suffixes do not depend on the order if one tool is last in both, or if the tools do not
compete. -/
theorem suffixes_applyAll_eq {first second : List Tool}
    (hsame : ∀ tool, tool ∈ first ↔ tool ∈ second)
    (hlast : ¬ (Tool.assembler ∈ first ∧ Tool.compiler ∈ first) ∨
      ∃ tool, Tool.AppliedLast first tool ∧ Tool.AppliedLast second tool) :
    (env.applyAll first detect).suffixes = (env.applyAll second detect).suffixes := by
  refine Dict.ext_get? fun suffix => ?_
  have hfound : first.reverse.findSome? (·.rules.get? suffix) =
      second.reverse.findSome? (·.rules.get? suffix) := by
    by_cases hagree : ∀ tool ∈ first.reverse, ∀ other ∈ first.reverse, ∀ action action',
        tool.rules.get? suffix = some action → other.rules.get? suffix = some action' →
          action = action'
    · exact findSome?_eq_of_agree (by simpa using hsame) hagree
    · -- two tools compete for the suffix, so it goes to the one that is last in both
      push Not at hagree
      obtain ⟨tool, htool, other, hother, action, action', hclaim, hclaim', hne⟩ := hagree
      have hcompete {last : Tool} (h : last ≠ .archiver) : last = tool ∨ last = other :=
        Tool.eq_or_eq_of_disagree hclaim hclaim' hne h
      have hmem {last : Tool} (h : last ≠ .archiver) : last ∈ first := by
        rcases hcompete h with rfl | rfl
        · exact List.mem_reverse.mp htool
        · exact List.mem_reverse.mp hother
      obtain ⟨last, hfirst, hsecond⟩ := hlast.resolve_left fun h =>
        h ⟨hmem (by decide), hmem (by decide)⟩
      obtain ⟨claimed, hclaimed⟩ : ∃ claimed, last.rules.get? suffix = some claimed := by
        rcases hcompete hfirst.1 with rfl | rfl
        · exact ⟨action, hclaim⟩
        · exact ⟨action', hclaim'⟩
      rw [hfirst.findSome?_rules hclaimed, hsecond.findSome?_rules hclaimed]
  have hfirst := actionFor?_applyAll env first detect suffix
  have hsecond := actionFor?_applyAll env second detect suffix
  rw [hfound] at hfirst
  exact hfirst.trans hsecond.symm

/-- Applying tools once more changes nothing. -/
theorem applyAll_applyAll (env : Env) (tools : List Tool) (detect : Detector) :
    (env.applyAll tools detect).applyAll tools detect = env.applyAll tools detect := by
  rw [← applyAll_append]
  have hsame : ∀ tool, tool ∈ tools ++ tools ↔ tool ∈ tools := by simp
  have hlast : ¬ (Tool.assembler ∈ tools ++ tools ∧ Tool.compiler ∈ tools ++ tools) ∨
      ∃ tool, Tool.AppliedLast (tools ++ tools) tool ∧ Tool.AppliedLast tools tool := by
    by_cases hboth : Tool.assembler ∈ tools ++ tools ∧ Tool.compiler ∈ tools ++ tools
    · obtain ⟨last, hlast⟩ := Tool.exists_appliedLast ((hsame _).mp hboth.1) (by decide)
      exact .inr ⟨last, hlast.append tools, hlast⟩
    · exact .inl hboth
  exact eq_of_parts (vars_applyAll_eq hsame) (suffixes_applyAll_eq hsame hlast)

/-- **What the order of tools matters for.** Two sequences of the same tools, in whatever order and
however often each is applied, give the same variables. They give the same suffixes too, if the
assembler and the compiler are not both among the tools or if the same one of the two is applied
last. Where both are applied, one of them is last, and the suffixes it claims have its action, so
also those that both claim. And tools that are all applied once more change nothing. -/
theorem applyAll_order_independent (env : Env) (detect : Detector) (first second : List Tool)
    (hsame : ∀ tool, tool ∈ first ↔ tool ∈ second) :
    (env.applyAll first detect).vars = (env.applyAll second detect).vars ∧
      ((¬ (Tool.assembler ∈ first ∧ Tool.compiler ∈ first) ∨
          ∃ tool, Tool.AppliedLast first tool ∧ Tool.AppliedLast second tool) →
        (env.applyAll first detect).suffixes = (env.applyAll second detect).suffixes) ∧
      (Tool.assembler ∈ first ∧ Tool.compiler ∈ first → ∃ tool, Tool.AppliedLast first tool) ∧
      (∀ tool, Tool.AppliedLast first tool → ∀ suffix action,
        ((tool.contribution env).ask detect).suffixes.get? suffix = some action →
          (env.applyAll first detect).actionFor? suffix = some action) ∧
      (env.applyAll first detect).applyAll first detect = env.applyAll first detect := by
  refine ⟨vars_applyAll_eq hsame, suffixes_applyAll_eq hsame, ?_, ?_,
    applyAll_applyAll env first detect⟩
  · rintro ⟨hassembler, -⟩
    exact Tool.exists_appliedLast hassembler (by decide)
  · intro tool hlast suffix action hclaim
    rw [Tool.contribution_suffixes] at hclaim
    rw [actionFor?_applyAll, hlast.findSome?_rules hclaim, Option.some_or]

/-- The assembler comes last in both sequences, and takes the suffixes that the compiler claims
too. -/
theorem applyAll_assembler_last :
    let env := empty.set "PLATFORM" (.text "darwin")
    let detect : Detector := List.head?
    let first : List Tool := [.compiler, .archiver, .assembler]
    let second : List Tool := [.assembler, .compiler, .assembler, .archiver, .archiver]
    (∀ tool, tool ∈ first ↔ tool ∈ second) ∧
      (env.applyAll first detect).vars = (env.applyAll second detect).vars ∧
      (env.applyAll first detect).suffixes = (env.applyAll second detect).suffixes ∧
      (env.applyAll first detect).actionFor? ".S" = some .assemblePreprocessed ∧
      (env.applyAll first detect).applyAll first detect = env.applyAll first detect := by
  intro env detect first second
  have hsame : ∀ tool, tool ∈ first ↔ tool ∈ second := by
    intro tool
    cases tool <;> decide
  have hfirst : Tool.AppliedLast first .assembler :=
    ⟨by decide, [.compiler, .archiver], [], rfl, by simp⟩
  have hsecond : Tool.AppliedLast second .assembler :=
    ⟨by decide, [.assembler, .compiler], [.archiver, .archiver], rfl, by simp⟩
  obtain ⟨hvars, hsuffixes, -, hlast, htwice⟩ :=
    applyAll_order_independent env detect first second hsame
  exact ⟨hsame, hvars, hsuffixes (.inr ⟨_, hfirst, hsecond⟩),
    hlast _ hfirst ".S" .assemblePreprocessed (by decide +kernel), htwice⟩

end Env

end FirmwareBench
