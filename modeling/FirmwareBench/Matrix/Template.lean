import FirmwareBench.Path
set_option autoImplicit false

/-!
# Command templates

The command of a build step is written as a template. Its placeholders are replaced one after the
other, so that a placeholder in a value is replaced too if its turn comes later.
-/

namespace FirmwareBench

/-- What the placeholders of a template stand for. -/
structure StepValues where
  workspace : Path
  demo : String
  target : String
  toolchain : String
  /-- The preprocessor definitions. -/
  defines : String

/-- The placeholders with their values, in the order of replacement. -/
def StepValues.table (values : StepValues) : List (List Char × List Char) :=
  [("\x7bworkspace\x7d".toList, values.workspace.chars),
    ("\x7bdemo\x7d".toList, values.demo.toList),
    ("\x7btarget\x7d".toList, values.target.toList),
    ("\x7btoolchain\x7d".toList, values.toolchain.toList),
    ("\x7bdefines\x7d".toList, values.defines.toList)]

/-- A template with its placeholders replaced one after the other. -/
def renderStep (template : String) (values : StepValues) : String :=
  String.ofList (values.table.foldl
    (fun text (placeholder, value) => Text.replaceAll placeholder value text) template.toList)

end FirmwareBench
