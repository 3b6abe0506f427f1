import FirmwareBench.Toolchain.Tool
import Mathlib.Data.List.Induction

/-!
# What tools write

A tool is applied to the environment that the tools before it have left. The compiler looks into
that environment, so its contribution depends on what ran before; but what it looks at is written by
no other tool, and what it leaves out it has written itself. So the variables after any tools are
told by the contributions that each of them would make to the environment at the start.

## Main definitions

* `Tool.written`: the variables of a contribution.
* `Tool.rules`: the suffix rules of a contribution.
* `Env.Holds`: an environment holds what tools have written, and else what was there at the start.

## Main statements

* `Tool.written_agree`: no two tools write different values to one variable.
* `Env.Holds.apply`: one more tool.
* `Env.holds_applyAll`: any tools in any order.
-/

set_option autoImplicit false

namespace FirmwareBench

namespace Tool

/-! ## Contributions as lists -/

/-- The variables that a tool writes in an environment on a host. -/
def written (tool : Tool) (env : Env) (detect : Detector) : List (String × Value) :=
  match tool with
  | archiver => archiverVars ++ if (detect ["ranlib"]).isSome then indexerVars else []
  | assembler => assemblerVars
  | compiler => sharedCompilerVars env ++ compilerVars

/-- The suffix rules of a tool, which depend on nothing. -/
def rules : Tool → Dict Action
  | archiver => .empty
  | assembler => .ofList assemblerSuffixes
  | compiler => .ofList compilerSuffixes

theorem contribution_vars (tool : Tool) (env : Env) (detect : Detector) :
    ((tool.contribution env).ask detect).vars = .ofList (tool.written env detect) := by
  cases tool <;> simp [contribution, Inquiry.ask, Inquiry.settled, written]

theorem contribution_suffixes (tool : Tool) (env : Env) (detect : Detector) :
    ((tool.contribution env).ask detect).suffixes = tool.rules := by
  cases tool <;> simp only [contribution, Inquiry.ask, Inquiry.settled, rules]

/-- The variables that tools write in every environment. -/
def fixedVars : List (String × Value) :=
  archiverVars ++ indexerVars ++ assemblerVars ++ compilerVars

/-- The variables that the compiler shares with other tools for C. -/
def sharedKeys : List String := ["_CCCOMCOM", "FRAMEWORKS", "FRAMEWORKPATH", "CCFLAGS", "SHCCFLAGS"]

/-- What the compiler looks at before it writes. -/
def guardKeys : List String := ["PLATFORM", "_CCCOMCOM", "CCFLAGS", "SHCCFLAGS"]

variable {env seed : Env} {detect : Detector}

/-! ## The shared variables -/

/-- The shared variables are written in one order, some of them left out. -/
theorem keys_sharedCompilerVars (env : Env) :
    ((sharedCompilerVars env).map Prod.fst).Sublist sharedKeys := by
  have hguarded (guard : Bool) (list : List (String × Value)) :
      ((if guard then [] else list).map Prod.fst).Sublist (list.map Prod.fst) := by
    cases guard <;> simp
  rw [sharedCompilerVars, List.map_append, List.map_append]
  exact ((hguarded _ _).append (hguarded _ _)).append (hguarded _ _)

/-- What the compiler shares hangs on the variables it looks at only. -/
theorem sharedCompilerVars_congr (h : ∀ key ∈ guardKeys, env.get? key = seed.get? key) :
    sharedCompilerVars env = sharedCompilerVars seed := by
  have hdefines : ∀ key ∈ guardKeys, env.defines key = seed.defines key := by
    intro key hkey
    exact congrArg Option.isSome (h key hkey)
  rw [sharedCompilerVars, sharedCompilerVars, h "PLATFORM" (by decide),
    hdefines "_CCCOMCOM" (by decide), hdefines "CCFLAGS" (by decide),
    hdefines "SHCCFLAGS" (by decide)]

/-- Where all that guards them is there, nothing is shared any more. -/
theorem sharedCompilerVars_eq_nil
    (h : ∀ key ∈ ["_CCCOMCOM", "CCFLAGS", "SHCCFLAGS"], env.defines key = true) :
    sharedCompilerVars env = [] := by
  simp [sharedCompilerVars, h]

/-- What guards the shared variables is itself shared where it is missing. -/
theorem mem_sharedCompilerVars_of_not_defines {key : String}
    (hkey : key ∈ ["_CCCOMCOM", "CCFLAGS", "SHCCFLAGS"]) (h : env.defines key = false) :
    ∃ value, (key, value) ∈ sharedCompilerVars env := by
  simp only [List.mem_cons, List.not_mem_nil, or_false] at hkey
  rcases hkey with rfl | rfl | rfl <;> simp [sharedCompilerVars, h]

/-! ## No variable has two values -/

theorem fixedVars_agree : ∀ e ∈ fixedVars, ∀ e' ∈ fixedVars, e.1 = e'.1 → e.2 = e'.2 := by
  decide +kernel

theorem not_mem_of_mem_fixedVars : ∀ e ∈ fixedVars, e.1 ∉ sharedKeys ∧ e.1 ∉ guardKeys := by
  decide +kernel

theorem mem_sharedKeys {key : String} {value : Value} (h : (key, value) ∈ sharedCompilerVars env) :
    key ∈ sharedKeys :=
  (keys_sharedCompilerVars env).subset (List.mem_map_of_mem h)

/-- The compiler writes no variable twice, once as a shared one and once as its own. -/
theorem lookup_compilerVars_of_mem_shared {key : String} {value : Value}
    (h : (key, value) ∈ sharedCompilerVars env) : Dict.lookup key compilerVars = none := by
  rw [Dict.lookup_eq_none_iff]
  intro hkey
  obtain ⟨e, he, rfl⟩ := List.mem_map.mp hkey
  exact (not_mem_of_mem_fixedVars e (List.mem_append_right _ he)).1 (mem_sharedKeys h)

theorem mem_written {tool : Tool} {e : String × Value} (h : e ∈ tool.written env detect) :
    e ∈ fixedVars ∨ tool = compiler ∧ e ∈ sharedCompilerVars env := by
  simp only [fixedVars, List.mem_append]
  cases tool with
  | archiver =>
      rcases List.mem_append.mp h with hmem | hmem
      · exact .inl (.inl (.inl (.inl hmem)))
      · have hindexer : e ∈ indexerVars := by
          cases hfound : (detect ["ranlib"]).isSome <;> simp [hfound] at hmem
          exact hmem
        exact .inl (.inl (.inl (.inr hindexer)))
  | assembler => exact .inl (.inl (.inr h))
  | compiler =>
      rcases List.mem_append.mp h with hmem | hmem
      · exact .inr ⟨rfl, hmem⟩
      · exact .inl (.inr hmem)

theorem written_nodup (tool : Tool) (env : Env) (detect : Detector) :
    ((tool.written env detect).map Prod.fst).Nodup := by
  cases tool with
  | archiver =>
      show ((archiverVars ++ if (detect ["ranlib"]).isSome then indexerVars else []).map
        Prod.fst).Nodup
      cases (detect ["ranlib"]).isSome <;> decide +kernel
  | assembler => exact (by decide +kernel : (assemblerVars.map Prod.fst).Nodup)
  | compiler =>
      have hall : (sharedKeys ++ compilerVars.map Prod.fst).Nodup := by decide +kernel
      rw [written, List.map_append]
      exact hall.sublist ((keys_sharedCompilerVars env).append_right _)

/-- **No two tools write different values to one variable.** -/
theorem written_agree {tool other : Tool} {key : String} {value value' : Value}
    (h : (key, value) ∈ tool.written env detect) (h' : (key, value') ∈ other.written env detect) :
    value = value' := by
  rcases mem_written h with hfixed | ⟨-, hshared⟩
  · rcases mem_written h' with hfixed' | ⟨-, hshared'⟩
    · exact fixedVars_agree _ hfixed _ hfixed' rfl
    · exact absurd (mem_sharedKeys hshared') (not_mem_of_mem_fixedVars _ hfixed).1
  · rcases mem_written h' with hfixed' | ⟨-, hshared'⟩
    · exact absurd (mem_sharedKeys hshared) (not_mem_of_mem_fixedVars _ hfixed').1
    · have hkeys : ((sharedCompilerVars env).map Prod.fst).Nodup :=
        (by decide : sharedKeys.Nodup).sublist (keys_sharedCompilerVars env)
      have hvalue := (Dict.lookup_eq_some_iff hkeys).mpr hshared
      have hvalue' := (Dict.lookup_eq_some_iff hkeys).mpr hshared'
      exact Option.some.inj (hvalue.symm.trans hvalue')

end Tool

/-! ## One tool after the other -/

namespace Env

theorem get?_apply (env : Env) (tool : Tool) (detect : Detector) (key : String) :
    (env.apply tool detect).get? key =
      (Dict.lookup key (tool.written env detect)).or (env.get? key) := by
  rw [← Dict.get?_ofList (tool.written_nodup env detect), ← Tool.contribution_vars]
  exact Dict.get?_union env.vars _ key

/-- The variables are those that the tools write in the environment `seed`, and else those that are
in it already. -/
def Holds (seed : Env) (detect : Detector) (tools : List Tool) (env : Env) : Prop :=
  ∀ key value, env.get? key = some value ↔
    (∃ tool ∈ tools, (key, value) ∈ tool.written seed detect) ∨
      (∀ tool ∈ tools, key ∉ (tool.written seed detect).map Prod.fst) ∧ seed.get? key = some value

variable {seed env : Env} {detect : Detector} {tools : List Tool}

/-- What no tool writes is as before. -/
theorem Holds.get?_eq (h : Holds seed detect tools env) {key : String}
    (hkey : ∀ tool ∈ tools, key ∉ (tool.written seed detect).map Prod.fst) :
    env.get? key = seed.get? key := by
  refine Option.ext fun value => ?_
  rw [h key value]
  constructor
  · rintro (⟨tool, htool, hmem⟩ | ⟨-, hvalue⟩)
    · exact absurd (List.mem_map_of_mem hmem) (hkey tool htool)
    · exact hvalue
  · exact fun hvalue => .inr ⟨hkey, hvalue⟩

theorem Holds.defines (h : Holds seed detect tools env) {key : String}
    (hkey : seed.defines key = true) : env.defines key = true := by
  obtain ⟨value, hvalue⟩ := Option.isSome_iff_exists.mp hkey
  refine Option.isSome_iff_exists.mpr ?_
  by_cases hwritten : ∃ tool ∈ tools, key ∈ (tool.written seed detect).map Prod.fst
  · obtain ⟨tool, htool, hwritten⟩ := hwritten
    obtain ⟨⟨_, other⟩, hmem, rfl⟩ := List.mem_map.mp hwritten
    exact ⟨other, (h _ other).mpr (.inl ⟨tool, htool, hmem⟩)⟩
  · push Not at hwritten
    exact ⟨value, (h key value).mpr (.inr ⟨hwritten, hvalue⟩)⟩

/-- What the compiler shared is still there. -/
theorem Holds.get?_shared (h : Holds seed detect tools env) (hbefore : .compiler ∈ tools) :
    ∀ e ∈ Tool.sharedCompilerVars seed, env.get? e.1 = some e.2 :=
  fun e he => (h e.1 e.2).mpr (.inl ⟨_, hbefore, List.mem_append_left _ he⟩)

/-- The compiler finds what it shared before, and shares nothing any more. -/
theorem Holds.shared_eq_nil (h : Holds seed detect tools env) (hbefore : .compiler ∈ tools) :
    Tool.sharedCompilerVars env = [] := by
  refine Tool.sharedCompilerVars_eq_nil fun guard hguard => ?_
  cases hseed : seed.defines guard with
  | true => exact h.defines hseed
  | false =>
      obtain ⟨value, hmem⟩ := Tool.mem_sharedCompilerVars_of_not_defines hguard hseed
      exact Option.isSome_iff_exists.mpr ⟨value, h.get?_shared hbefore _ hmem⟩

/-- No other tool writes what the compiler looks at. -/
theorem Holds.shared_eq (h : Holds seed detect tools env) (hbefore : .compiler ∉ tools) :
    Tool.sharedCompilerVars env = Tool.sharedCompilerVars seed := by
  refine Tool.sharedCompilerVars_congr fun guard hguard => ?_
  refine h.get?_eq fun tool htool hkey => ?_
  obtain ⟨⟨_, other⟩, hmem, rfl⟩ := List.mem_map.mp hkey
  rcases Tool.mem_written hmem with hfixed | ⟨rfl, -⟩
  · exact (Tool.not_mem_of_mem_fixedVars _ hfixed).2 hguard
  · exact hbefore htool

/-- What a tool writes now is what it would have written at the start, but for variables that are
there with that value already. -/
theorem Holds.written_or (h : Holds seed detect tools env) (tool : Tool) (key : String) :
    (Dict.lookup key (tool.written env detect)).or (env.get? key) =
      (Dict.lookup key (tool.written seed detect)).or (env.get? key) := by
  cases tool with
  | archiver => rfl
  | assembler => rfl
  | compiler =>
      -- it shares everything the first time it is applied, and nothing later on
      by_cases hbefore : Tool.compiler ∈ tools
      · simp only [Tool.written, h.shared_eq_nil hbefore, List.nil_append, Dict.lookup_append]
        cases hlookup : Dict.lookup key (Tool.sharedCompilerVars seed) with
        | none => rw [Option.none_or]
        | some value =>
            have hmem : (key, value) ∈ Tool.sharedCompilerVars seed :=
              Dict.mem_of_lookup_eq_some hlookup
            have hthere : env.get? key = some value := h.get?_shared hbefore _ hmem
            rw [Tool.lookup_compilerVars_of_mem_shared hmem, hthere]
            rfl
      · simp only [Tool.written, h.shared_eq hbefore]

/-- **One more tool.** It does not matter what ran before. -/
theorem Holds.apply (h : Holds seed detect tools env) (tool : Tool) :
    Holds seed detect (tools ++ [tool]) (env.apply tool detect) := by
  intro key value
  have hkeys := tool.written_nodup seed detect
  rw [get?_apply, h.written_or, Option.or_eq_some_iff, Dict.lookup_eq_some_iff hkeys,
    Dict.lookup_eq_none_iff, h key value]
  simp only [List.mem_append, List.mem_singleton]
  constructor
  · rintro (hmem | ⟨hkey, ⟨other, hother, hmem⟩ | ⟨hnone, hvalue⟩⟩)
    · exact .inl ⟨tool, .inr rfl, hmem⟩
    · exact .inl ⟨other, .inl hother, hmem⟩
    · refine .inr ⟨?_, hvalue⟩
      rintro other (hother | rfl)
      · exact hnone other hother
      · exact hkey
  · rintro (⟨other, hother | rfl, hmem⟩ | ⟨hnone, hvalue⟩)
    · -- the variable of another tool: if this one writes it too, then the same value
      by_cases hkey : key ∈ (tool.written seed detect).map Prod.fst
      · obtain ⟨⟨_, value'⟩, hmem', rfl⟩ := List.mem_map.mp hkey
        rw [Tool.written_agree hmem hmem']
        exact .inl hmem'
      · exact .inr ⟨hkey, .inl ⟨other, hother, hmem⟩⟩
    · exact .inl hmem
    · exact .inr ⟨hnone tool (.inr rfl),
        .inr ⟨fun other hother => hnone other (.inl hother), hvalue⟩⟩

theorem applyAll_append (env : Env) (first second : List Tool) (detect : Detector) :
    env.applyAll (first ++ second) detect = (env.applyAll first detect).applyAll second detect :=
  List.foldl_append

/-- **Any tools in any order.** The variables are those that the tools write in the environment at
the start, and else those that are in it already. -/
theorem holds_applyAll (env : Env) (tools : List Tool) (detect : Detector) :
    Holds env detect tools (env.applyAll tools detect) := by
  induction tools using List.reverseRecOn with
  | nil =>
      intro key value
      simp [applyAll]
  | append_singleton tools tool ih =>
      rw [applyAll_append]
      exact ih.apply tool

end Env

end FirmwareBench
