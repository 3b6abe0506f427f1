import FirmwareBench.Proofs.Build.Concatenation
import FirmwareBench.Proofs.Build.ReferenceChain
import FirmwareBench.Toolchain.Tool

/-!
# Looking for the compiler

The compiler is looked for under the first word of what `CC` expands to, and a command line that
begins with `$CC ` is expanded and then started. The two expand `CC` on different levels: on its
own, its value is the outermost text, in the command line it is one level further down. So where the
command line expands, `CC` does too, with the same text, and the program that is looked for is the
one that the command line starts.

## Main definitions

* `IsProgramName`: a text that may name a program.

## Main statements

* `Tool.questions_compiler_cases`: the host is asked for one program name at most.
* `Env.expand_commandLine`: what the expansion of a command line begins with.
* `Tool.compiler_looked_for_is_started`: the compiler that is looked for is the one of the command
  line.
-/

set_option autoImplicit false

namespace FirmwareBench

open Text (IsWords words collapse)

/-! ## One program name -/

/-- A program name: a text with characters, none of them a blank. -/
def IsProgramName (name : String) : Prop := name ≠ "" ∧ ∀ c ∈ name.toList, Text.isBlank c = false

/-- Each word of a text is a program name. -/
theorem isProgramName_of_mem_words {text word : List Char} (h : word ∈ words text) :
    IsProgramName (String.ofList word) := by
  have hne : word ≠ [] := Text.ne_nil_of_mem_words h
  refine ⟨?_, ?_⟩
  · simpa [← String.toList_inj] using hne
  · simpa using Text.isBlank_of_mem_words h

namespace Tool

variable {env : Env} {detect : Detector}

/-- The compiler is looked for under the first word of its command, if that has words. -/
theorem compilerProgram?_eq_some_iff {name : String} :
    compilerProgram? env = some name ↔
      ∃ word later, words (compilerCommand env).toList = word :: later ∧
        name = String.ofList word := by
  rw [compilerProgram?]
  cases words (compilerCommand env).toList <;> simp [eq_comm]

theorem compilerProgram?_eq_none_iff :
    compilerProgram? env = none ↔ words (compilerCommand env).toList = [] := by
  rw [compilerProgram?]
  cases words (compilerCommand env).toList <;> simp

theorem questions_compiler :
    (compiler.availability env).questions = (compilerProgram? env).toList.map ([·]) := rfl

theorem ask_compiler :
    (compiler.availability env).ask detect =
      ((compilerProgram? env).bind fun name => detect [name]).isSome := by
  rw [availability, Inquiry.ask_whether]
  cases compilerProgram? env <;> simp

/-- **The host is asked for one program name at most**, whatever `CC` holds. -/
theorem questions_compiler_cases :
    (compiler.availability env).questions = [] ∨
      ∃ name, (compiler.availability env).questions = [[name]] ∧ IsProgramName name := by
  rw [questions_compiler]
  cases hprogram : compilerProgram? env with
  | none => exact .inl rfl
  | some name =>
      obtain ⟨word, later, hwords, rfl⟩ := compilerProgram?_eq_some_iff.mp hprogram
      have hmem : word ∈ words (compilerCommand env).toList := by simp [hwords]
      exact .inr ⟨_, rfl, isProgramName_of_mem_words hmem⟩

end Tool

/-! ## Command lines of the compiler -/

namespace Env

variable {env : Env}

theorem scan_compiler : scan "$CC".toList = [.reference "CC"] := by decide

/-- The reference to the compiler leaves nothing open, so it is read apart from what follows. -/
theorem isClosed_compiler : IsClosed "$CC".toList := by
  have hname : "CC".toList.all isNameChar = true := by rfl
  exact @IsClosed.named "CC".toList [] ⟨⟨'C', rfl, rfl⟩, List.all_eq_true.mp hname⟩ (by simp) .nil

/-- **A command line of the compiler.** Where it expands, the value of `CC` does, in the command
line as well as on its own, and its words come first. -/
theorem expand_commandLine {value text result : String} (hvalue : env.displayed? "CC" = some value)
    (h : env.expand ("$CC " ++ text) = .ok result) :
    ∃ expansion, env.expand "$CC" = .ok expansion ∧ env.expand value = .ok expansion ∧
      ∃ later, words result.toList = words expansion.toList ++ later := by
  have hline : ("$CC " ++ text).toList = "$CC".toList ++ ' ' :: text.toList := by simp
  obtain ⟨line, hexpand, rfl⟩ := (expand_eq_ok_iff_of_root "$CC").mp h
  rw [hline, expandWithin_append_space env isClosed_compiler] at hexpand
  obtain ⟨before, after, hbefore, -, rfl⟩ := hexpand
  -- the value has one level less to go in the command line than on its own
  have hinner : expandWithin env "$CC" maxDepth value.toList = .ok before := by
    rwa [expandWithin_of_scan_eq scan_compiler hvalue] at hbefore
  have houter : expandWithin env value (maxDepth + 1) value.toList = .ok before :=
    expandWithin_mono env (Nat.le_succ maxDepth) hinner
  refine ⟨String.ofList (collapse before), expand_eq_ok_iff.mpr ⟨before, hbefore, rfl⟩,
    expand_eq_ok_iff.mpr ⟨before, houter, rfl⟩, words after, ?_⟩
  rw [String.toList_ofList, String.toList_ofList, Text.words_collapse, Text.words_collapse,
    Text.words_append_blank rfl]

end Env

namespace Tool

variable {env : Env} {detect : Detector}

/-- Where the value of `CC` expands, the compiler is looked for under the first word of that. -/
theorem compilerCommand_of_expand {value expansion : String}
    (hvalue : env.displayed? "CC" = some value) (h : env.expand value = .ok expansion) :
    compilerCommand env = expansion := by
  simp only [compilerCommand, hvalue, h]

/-- **The compiler that is looked for is the one that is started.** The host is asked at most once,
and for one program name, whatever `CC` holds. Where `CC` is set and a command line behind `$CC `
expands, `CC` expands too. If that has words, the first one is the first word of the command line
and the program that the host is asked for, and the compiler is there if the host finds it. If it
has none, the host is not asked and there is no compiler. -/
theorem compiler_looked_for_is_started (env : Env) (detect : Detector) :
    ((compiler.availability env).questions = [] ∨
      ∃ name, (compiler.availability env).questions = [[name]] ∧ IsProgramName name) ∧
    ∀ text result, env.defines "CC" = true → env.expand ("$CC " ++ text) = .ok result →
      ∃ expansion, env.expand "$CC" = .ok expansion ∧
        (∀ program others, IsWords expansion.toList (program :: others) →
          (∃ later, IsWords result.toList (program :: later)) ∧
            (compiler.availability env).questions = [[String.ofList program]] ∧
            ((compiler.availability env).ask detect = true ↔
              ∃ found, detect [String.ofList program] = some found)) ∧
        (IsWords expansion.toList [] →
          (compiler.availability env).questions = [] ∧
            (compiler.availability env).ask detect = false) := by
  refine ⟨questions_compiler_cases, ?_⟩
  intro text result hset hline
  obtain ⟨value, hvalue⟩ := Env.defines_iff_displayed?.mp hset
  obtain ⟨expansion, hreference, hown, later, hresult⟩ := Env.expand_commandLine hvalue hline
  have hcommand : compilerCommand env = expansion := compilerCommand_of_expand hvalue hown
  refine ⟨expansion, hreference, ?_, ?_⟩
  · intro program others hwords
    have hexpansion : words expansion.toList = program :: others :=
      (Text.isWords_iff.mp hwords).symm
    have hprogram : compilerProgram? env = some (String.ofList program) :=
      compilerProgram?_eq_some_iff.mpr ⟨program, others, by rw [hcommand, hexpansion], rfl⟩
    refine ⟨⟨others ++ later, Text.isWords_iff.mpr ?_⟩, ?_, ?_⟩
    · rw [hresult, hexpansion, List.cons_append]
    · rw [questions_compiler, hprogram]
      rfl
    · rw [ask_compiler, hprogram, Option.bind_some, Option.isSome_iff_exists]
  · intro hwords
    have hprogram : compilerProgram? env = none :=
      compilerProgram?_eq_none_iff.mpr (by rw [hcommand, ← Text.isWords_iff.mp hwords])
    rw [questions_compiler, ask_compiler, hprogram]
    exact ⟨rfl, rfl⟩

/-- An environment with a compiler that has an option, and whose path is put together. -/
def suiteEnv : Env :=
  ((Env.empty.set "ROOT" (.text "/opt/llvm")).set "CC_BIN" (.text "clang")).set "CC"
    (.items ["$ROOT/bin/$CC_BIN", "-m32"])

/-- An environment with a compiler that expands to nothing. -/
def blankEnv : Env := Env.empty.set "CC" (.text " $NONE\t")

theorem compiler_looked_for_is_started_suite :
    (suiteEnv.defines "CC" = true ∧
      suiteEnv.expand ("$CC " ++ "-c $NONE x.c") = .ok "/opt/llvm/bin/clang -m32 -c x.c" ∧
      (compiler.availability suiteEnv).questions = [["/opt/llvm/bin/clang"]] ∧
      (compiler.availability suiteEnv).ask List.head? = true) ∧
    (blankEnv.defines "CC" = true ∧ blankEnv.expand ("$CC " ++ "-c x.c") = .ok "-c x.c" ∧
      (compiler.availability blankEnv).questions = [] ∧
      (compiler.availability blankEnv).ask List.head? = false) := by
  have hsuite : suiteEnv.expand ("$CC " ++ "-c $NONE x.c") =
      .ok "/opt/llvm/bin/clang -m32 -c x.c" := by rfl
  have hblank : blankEnv.expand ("$CC " ++ "-c x.c") = .ok "-c x.c" := by rfl
  constructor
  · obtain ⟨-, hstarted⟩ := compiler_looked_for_is_started suiteEnv List.head?
    obtain ⟨expansion, hexpansion, hprogram, -⟩ := hstarted "-c $NONE x.c" _ (by rfl) hsuite
    have hvalue : suiteEnv.expand "$CC" = .ok "/opt/llvm/bin/clang -m32" := by rfl
    obtain rfl : "/opt/llvm/bin/clang -m32" = expansion :=
      Except.ok.inj (hvalue.symm.trans hexpansion)
    obtain ⟨-, hquestion, hfound⟩ := hprogram "/opt/llvm/bin/clang".toList ["-m32".toList]
      (Text.isWords_iff.mpr (by rfl))
    exact ⟨by rfl, hsuite, hquestion, hfound.mpr ⟨"/opt/llvm/bin/clang", by rfl⟩⟩
  · obtain ⟨-, hstarted⟩ := compiler_looked_for_is_started blankEnv List.head?
    obtain ⟨expansion, hexpansion, -, hnothing⟩ := hstarted "-c x.c" _ (by rfl) hblank
    have hvalue : blankEnv.expand "$CC" = .ok "" := by rfl
    obtain rfl : "" = expansion := Except.ok.inj (hvalue.symm.trans hexpansion)
    exact ⟨by rfl, hblank, hnothing (Text.isWords_iff.mpr (by rfl))⟩

end Tool

end FirmwareBench
