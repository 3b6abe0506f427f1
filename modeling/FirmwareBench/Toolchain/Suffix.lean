set_option autoImplicit false

/-!
# Source suffixes

The suffixes that the assembler and the compiler claim. Suffixes are case sensitive, so `.S` and
`.s` are different kinds of source and `.S` is one that is preprocessed.
-/

namespace FirmwareBench.Suffix

/-- Whether two suffixes that differ in case only are different kinds of source. -/
def caseSensitive : Bool := true

/-- Suffixes of sources that are assembled as they are. -/
def assembled : List String := [".s", ".asm", ".ASM", ".fps"]

/-- Suffixes of sources that are preprocessed and then assembled. -/
def preprocessed : List String := [".spp", ".SPP", ".sx", ".S"]

/-- Suffixes of sources that are compiled. -/
def compiled : List String :=
  [".c", ".C", ".cxx", ".cpp", ".c++", ".cc", ".h", ".H", ".hxx", ".hpp", ".hh", ".m", ".mm",
    ".S", ".spp", ".SPP", ".sx"]

end FirmwareBench.Suffix
