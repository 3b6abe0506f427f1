import FirmwareBench.Matrix.Template
import FirmwareBench.Proofs.Text.InTurn

/-!
# The command of a build step

The placeholders of a step's template are replaced in turn, not all at once. So a placeholder that
a value brings in is replaced as well if its turn comes later, as is one that a value completes
between the braces of the template. Where the braces of the template are not nested and no value but
the last one has an opening brace, the command is the template with all placeholders replaced at
once.

## Main statements

* `renderStep_not_at_once`: a placeholder in a value is not kept.
* `renderStep_replaces`: what the command of a step is, and when the order makes no difference.
-/

set_option autoImplicit false

namespace FirmwareBench

theorem StepValues.isTable_table (values : StepValues) : Text.IsTable values.table := by
  have hplaceholder : ∀ key ∈ values.table.map Prod.fst, Text.IsPlaceholder key := by
    simp only [table, List.map_cons, List.map_nil, List.forall_mem_cons]
    refine ⟨?_, ?_, ?_, ?_, ?_, by simp⟩
    · exact ⟨"workspace".toList, by decide, by decide, by decide⟩
    · exact ⟨"demo".toList, by decide, by decide, by decide⟩
    · exact ⟨"target".toList, by decide, by decide, by decide⟩
    · exact ⟨"toolchain".toList, by decide, by decide, by decide⟩
    · exact ⟨"defines".toList, by decide, by decide, by decide⟩
  refine ⟨fun entry hentry => hplaceholder _ (List.mem_map_of_mem hentry), ?_⟩
  simp only [table, List.map_cons, List.map_nil]
  decide

theorem renderStep_eq (template : String) (values : StepValues) :
    renderStep template values =
      String.ofList (Text.replaceInTurn values.table template.toList) := rfl

/-- A workspace whose path looks like a placeholder. -/
def oddWorkspace : StepValues :=
  { workspace := .ofString "/ws/\x7bdemo\x7d", demo := "trap_baremetal", target := "eh1",
    toolchain := "llvm", defines := "" }

/-- **Placeholders are not replaced all at once.** A placeholder in the path of the workspace is
replaced too. -/
theorem renderStep_not_at_once :
    ¬ ∀ template values,
      Text.Replaces values.table template.toList (renderStep template values).toList := by
  intro h
  have hfill := (Text.replaces_iff oddWorkspace.isTable_table).mp
    (h "\x7bworkspace\x7d" oddWorkspace)
  have hrender : renderStep "\x7bworkspace\x7d" oddWorkspace = "/ws/trap_baremetal" := by decide
  have hatOnce : Text.fill oddWorkspace.table "\x7bworkspace\x7d".toList =
      "/ws/\x7bdemo\x7d".toList := by decide
  rw [hrender, hatOnce] at hfill
  exact absurd hfill (by decide)

/-- **The command of a build step.** It is the template with its placeholders replaced in turn, in
the order of the table. If the braces of the template are not nested, and no value but the last one
has an opening brace, then it is the template with all placeholders replaced at once. -/
theorem renderStep_replaces (template : String) (values : StepValues) :
    (∀ out, Text.ReplacesInTurn values.table template.toList out ↔
      renderStep template values = String.ofList out) ∧
    (Text.IsFlat template.toList → (∀ entry ∈ values.table.dropLast, '\x7b' ∉ entry.2) →
      ∀ out, Text.Replaces values.table template.toList out ↔
        renderStep template values = String.ofList out) := by
  have hout : ∀ out : List Char, renderStep template values = String.ofList out ↔
      out = Text.replaceInTurn values.table template.toList := by
    intro out
    rw [renderStep_eq, String.ofList_inj, eq_comm]
  refine ⟨?_, ?_⟩
  · intro out
    rw [Text.replacesInTurn_iff values.isTable_table, hout]
  · intro hflat hvalues out
    rw [Text.replaces_iff values.isTable_table, hout,
      Text.replaceInTurn_eq_fill values.isTable_table hvalues hflat]

/-- A template with braces of its own, one of which is never closed. -/
def flatTemplate : String :=
  "make -C \x7bworkspace\x7d \x7b\x7d \x7bdefines\x7d=\x7btarget\x7d \x7bdemo"

/-- A path with a closing brace, and definitions that look like a placeholder. -/
def closingValues : StepValues :=
  { workspace := .ofString "/ws\x7d", demo := "internal_timers", target := "eh1",
    toolchain := "llvm", defines := "-D\x7btarget\x7d" }

theorem renderStep_replaces_flat :
    Text.IsFlat flatTemplate.toList ∧
      (∀ entry ∈ closingValues.table.dropLast, '\x7b' ∉ entry.2) ∧
      Text.Replaces closingValues.table flatTemplate.toList
        "make -C /ws\x7d \x7b\x7d -D\x7btarget\x7d=eh1 \x7bdemo".toList := by
  have hflat : Text.IsFlat flatTemplate.toList := by decide
  have hvalues : ∀ entry ∈ closingValues.table.dropLast, '\x7b' ∉ entry.2 := by decide
  exact ⟨hflat, hvalues,
    ((renderStep_replaces flatTemplate closingValues).2 hflat hvalues _).mpr (by decide)⟩

/-- The braces of the template count as well: here the path completes the name of a placeholder,
and no value has a brace. -/
example : renderStep "\x7bde\x7bworkspace\x7d\x7d"
    { oddWorkspace with workspace := .ofString "mo" } = "trap_baremetal" := by decide

end FirmwareBench
