import FirmwareBench.Proofs.Toolchain.Written

/-!
# Shared variables that are there already

The compiler shares five variables with other tools for C, and fills them in where the environment
does not carry them already. It looks at three of the five only: `_CCCOMCOM` stands for the two
variables of the frameworks too. So the three are left alone. The other two are left alone where
`_CCCOMCOM` is carried; where it is not, they are emptied whatever they held.

## Main definitions

* `Tool.guard`: the variable that is looked at before a shared one is written.

## Main statements

* `Tool.lookup_sharedCompilerVars_eq_none_iff`: a shared variable is left alone if its guard is
  there.
* `Env.get?_applyAll_shared`: the shared variables after any tools.
* `Env.applyAll_keeps_guarded`: which of them are left alone, and what becomes of the others.
* `Env.applyAll_overwrites_frameworks`: not all of them are left alone.
-/

set_option autoImplicit false

namespace FirmwareBench
namespace Tool

variable {env : Env} {detect : Detector}

def frameworkKeys : List String := ["FRAMEWORKS", "FRAMEWORKPATH"]

/-- The variable that is looked at before a shared one is written. -/
def guard (key : String) : String := if key ∈ frameworkKeys then "_CCCOMCOM" else key

theorem lookup_guarded {β : Type} (carried : Bool) (key : String) (list : List (String × β)) :
    Dict.lookup key (if carried then [] else list) =
      if carried then none else Dict.lookup key list := by
  cases carried <;> rfl

/-- **A shared variable is left alone exactly if its guard is there.** -/
theorem lookup_sharedCompilerVars_eq_none_iff {key : String} (hkey : key ∈ sharedKeys) :
    Dict.lookup key (sharedCompilerVars env) = none ↔ env.defines (guard key) = true := by
  simp only [sharedKeys, List.mem_cons, List.not_mem_nil, or_false] at hkey
  rcases hkey with rfl | rfl | rfl | rfl | rfl <;>
    simp [sharedCompilerVars, Dict.lookup_append, lookup_guarded, Dict.lookup, guard, frameworkKeys]

/-- The variables of the frameworks are emptied. -/
theorem lookup_sharedCompilerVars_framework {key : String} (hkey : key ∈ frameworkKeys)
    (h : env.defines "_CCCOMCOM" = false) :
    Dict.lookup key (sharedCompilerVars env) = some (.items []) := by
  simp only [frameworkKeys, List.mem_cons, List.not_mem_nil, or_false] at hkey
  rcases hkey with rfl | rfl <;> simp [sharedCompilerVars, Dict.lookup, h]

/-- Of all tools only the compiler writes a shared variable. -/
theorem mem_keys_written_iff {tool : Tool} {key : String} (hkey : key ∈ sharedKeys) :
    key ∈ (tool.written env detect).map Prod.fst ↔
      tool = compiler ∧ key ∈ (sharedCompilerVars env).map Prod.fst := by
  constructor
  · intro h
    obtain ⟨e, he, rfl⟩ := List.mem_map.mp h
    rcases mem_written he with hfixed | ⟨rfl, hshared⟩
    · exact absurd hkey (not_mem_of_mem_fixedVars e hfixed).1
    · exact ⟨rfl, List.mem_map_of_mem hshared⟩
  · rintro ⟨rfl, h⟩
    rw [written, List.map_append]
    exact List.mem_append_left _ h

end Tool

namespace Env

variable {seed : Env} {tools : List Tool} {detect : Detector}

/-- **The shared variables after any tools.** What the compiler shares with the environment at the
start is there if the compiler is among the tools, and else all is as before. -/
theorem get?_applyAll_shared {key : String} (hkey : key ∈ Tool.sharedKeys) :
    (seed.applyAll tools detect).get? key =
      (if .compiler ∈ tools then Dict.lookup key (Tool.sharedCompilerVars seed) else none).or
        (seed.get? key) := by
  have hholds := holds_applyAll seed tools detect
  by_cases hwritten : .compiler ∈ tools ∧ key ∈ (Tool.sharedCompilerVars seed).map Prod.fst
  · obtain ⟨hcompiler, hshared⟩ := hwritten
    obtain ⟨⟨_, value⟩, hmem, rfl⟩ := List.mem_map.mp hshared
    have hkeys : ((Tool.sharedCompilerVars seed).map Prod.fst).Nodup :=
      (by decide : Tool.sharedKeys.Nodup).sublist (Tool.keys_sharedCompilerVars seed)
    rw [if_pos hcompiler, (Dict.lookup_eq_some_iff hkeys).mpr hmem, Option.some_or]
    exact hholds.get?_shared hcompiler _ hmem
  · -- no tool writes the variable
    have hnone : ∀ tool ∈ tools, key ∉ (tool.written seed detect).map Prod.fst := by
      intro tool htool hmem
      obtain ⟨rfl, hshared⟩ := (Tool.mem_keys_written_iff hkey).mp hmem
      exact hwritten ⟨htool, hshared⟩
    have hlookup : (if .compiler ∈ tools then Dict.lookup key (Tool.sharedCompilerVars seed)
        else none) = none := by
      split
      · next hcompiler =>
        exact Dict.lookup_eq_none_iff.mpr fun hshared => hwritten ⟨hcompiler, hshared⟩
      · rfl
    rw [hlookup, Option.none_or, hholds.get?_eq hnone]

/-- A shared variable is as before if the compiler is not applied or its guard is there. -/
theorem get?_applyAll_of_guard {key : String} (hkey : key ∈ Tool.sharedKeys)
    (h : .compiler ∉ tools ∨ seed.defines (Tool.guard key) = true) :
    (seed.applyAll tools detect).get? key = seed.get? key := by
  rw [get?_applyAll_shared hkey]
  by_cases hcompiler : Tool.compiler ∈ tools
  · have hguard : seed.defines (Tool.guard key) = true := h.resolve_left (not_not_intro hcompiler)
    rw [if_pos hcompiler, (Tool.lookup_sharedCompilerVars_eq_none_iff hkey).mpr hguard,
      Option.none_or]
  · rw [if_neg hcompiler, Option.none_or]

/-- **What becomes of the shared variables.** Whatever tools are applied, a shared variable is as
before if the compiler is not among them or the guard of the variable is there. So the three
variables that guard themselves are never overwritten. The two of the frameworks are emptied where
the compiler is applied and `_CCCOMCOM` is missing. -/
theorem applyAll_keeps_guarded (seed : Env) (tools : List Tool) (detect : Detector) :
    (∀ key ∈ Tool.sharedKeys,
      .compiler ∉ tools ∨ seed.defines (Tool.guard key) = true →
        (seed.applyAll tools detect).get? key = seed.get? key) ∧
    (∀ key ∈ ["_CCCOMCOM", "CCFLAGS", "SHCCFLAGS"], ∀ value, seed.get? key = some value →
      (seed.applyAll tools detect).get? key = some value) ∧
    ∀ key ∈ Tool.frameworkKeys, .compiler ∈ tools → seed.defines "_CCCOMCOM" = false →
      (seed.applyAll tools detect).get? key = some (.items []) := by
  refine ⟨fun key hkey h => get?_applyAll_of_guard hkey h, ?_, ?_⟩
  · intro key hkey value hvalue
    have hself : ∀ key ∈ ["_CCCOMCOM", "CCFLAGS", "SHCCFLAGS"],
        key ∈ Tool.sharedKeys ∧ Tool.guard key = key := by decide
    obtain ⟨hshared, hguard⟩ := hself key hkey
    have hcarried : seed.defines (Tool.guard key) = true := by
      rw [hguard]
      exact Option.isSome_iff_exists.mpr ⟨value, hvalue⟩
    rw [get?_applyAll_of_guard hshared (.inr hcarried), hvalue]
  · intro key hkey hcompiler hmissing
    have hshared : ∀ key ∈ Tool.frameworkKeys, key ∈ Tool.sharedKeys := by decide
    rw [get?_applyAll_shared (hshared key hkey), if_pos hcompiler,
      Tool.lookup_sharedCompilerVars_framework hkey hmissing, Option.some_or]

/-- An environment with frameworks and flags for C. -/
def frameworkEnv : Env :=
  (empty.set "FRAMEWORKS" (.items ["Cocoa"])).set "CCFLAGS" (.items ["-Wall"])

/-- The flags stay in any case, the frameworks if `_CCCOMCOM` is there or the compiler is not
applied. -/
theorem applyAll_keeps_guarded_cocoa :
    let detect : Detector := List.head?
    let tools : List Tool := [.archiver, .compiler, .assembler, .compiler]
    let custom := frameworkEnv.set "_CCCOMCOM" (.text "$CUSTOM")
    ((frameworkEnv.applyAll tools detect).get? "CCFLAGS" = some (.items ["-Wall"]) ∧
      (custom.applyAll tools detect).get? "FRAMEWORKS" = some (.items ["Cocoa"]) ∧
      (frameworkEnv.applyAll [.archiver, .assembler] detect).get? "FRAMEWORKS" =
        some (.items ["Cocoa"]) ∧
      frameworkEnv.defines "_CCCOMCOM" = false ∧
      (frameworkEnv.applyAll tools detect).get? "FRAMEWORKS" = some (.items [])) := by
  intro detect tools custom
  obtain ⟨-, hflags, hframeworks⟩ := applyAll_keeps_guarded frameworkEnv tools detect
  have hcustom := (applyAll_keeps_guarded custom tools detect).1 "FRAMEWORKS" (by decide)
    (.inr (by rfl))
  have hothers := (applyAll_keeps_guarded frameworkEnv [.archiver, .assembler] detect).1
    "FRAMEWORKS" (by decide) (.inl (by decide))
  exact ⟨hflags "CCFLAGS" (by decide) _ (by rfl), hcustom, hothers, by rfl,
    hframeworks "FRAMEWORKS" (by decide) (by decide) (by rfl)⟩

/-- A shared variable that is carried may be overwritten: the frameworks are where `_CCCOMCOM` is
missing. -/
theorem applyAll_overwrites_frameworks :
    ¬ ∀ (seed : Env) (tools : List Tool) (detect : Detector), ∀ key ∈ Tool.sharedKeys, ∀ value,
      seed.get? key = some value → (seed.applyAll tools detect).get? key = some value := by
  intro h
  have hkept := h frameworkEnv [.compiler] List.head? "FRAMEWORKS" (by decide) (.items ["Cocoa"])
    (by rfl)
  have hemptied : (frameworkEnv.applyAll [.compiler] List.head?).get? "FRAMEWORKS" =
      some (.items []) := by decide +kernel
  rw [hemptied] at hkept
  exact absurd hkept (by decide)

end Env

end FirmwareBench
