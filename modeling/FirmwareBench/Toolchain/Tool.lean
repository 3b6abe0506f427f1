import FirmwareBench.Build.Expansion
import FirmwareBench.Toolchain.Inquiry
import FirmwareBench.Toolchain.Suffix
set_option autoImplicit false

/-!
# Tools of the toolchain

The archiver, the assembler and the C compiler. Each contributes the variables of its command lines
and the suffixes it builds, and each can be looked for on the host.

## Main definitions

* `Tool`: the tools, with their names.
* `Tool.contribution`: what a tool adds to an environment.
* `Tool.availability`: whether the host has the tool.
* `Env.apply`: the environment after a tool has made its contribution.
-/

namespace FirmwareBench

/-- An external program of the toolchain. -/
inductive Tool where
  /-- Packs objects into archives. -/
  | archiver
  /-- Assembles sources. -/
  | assembler
  /-- Compiles and links C sources. -/
  | compiler
deriving DecidableEq, Repr

namespace Tool

/-- All tools, in the order in which they are applied. -/
def all : List Tool := [archiver, assembler, compiler]

def name : Tool → String
  | archiver => "ar"
  | assembler => "as"
  | compiler => "cc"

def ofName (name : String) : Except BuildError Tool :=
  match all.find? (·.name == name) with
  | some tool => .ok tool
  | none => .error (.unknownTool name)

/-! ## Shared values -/

/-- The value every tool gives to `TOOLCHAIN`. -/
def family : Value := .text "RISCV"

/-- The program `bin` of the installation whose root is the variable `root`. -/
def installed (root bin : String) : Value := .text ("$" ++ root ++ "/bin/$" ++ bin)

def ofBinutils (bin : String) : Value := installed "RISCV_BINUTILS_TC_PATH" bin

def ofSuite (bin : String) : Value := installed "RISCV_LLVM_TC_PATH" bin

/-! ## Contributions -/

def archiverVars : List (String × Value) :=
  [("AR_BIN", .text "riscv32-unknown-elf-ar"),
    ("RANLIB_BIN", .text "riscv32-unknown-elf-ranlib"),
    ("AR", ofBinutils "AR_BIN"),
    ("ARFLAGS", .items ["rc"]),
    ("ARCOM", .text "$AR $ARFLAGS $TARGET $SOURCES"),
    ("LIBPREFIX", .text "lib_"),
    ("TOOLCHAIN", family)]

/-- Variables of the archive indexer. -/
def indexerVars : List (String × Value) :=
  [("RANLIB", ofBinutils "RANLIB_BIN"),
    ("RANLIBFLAGS", .items []),
    ("RANLIBCOM", .text "$RANLIB $RANLIBFLAGS $TARGET")]

def assemblerVars : List (String × Value) :=
  [("AS_BIN", .text "clang"),
    ("AS", ofSuite "AS_BIN"),
    ("ASFLAGS", .items []),
    ("ASCOM", .text "$AS $ASFLAGS -o $TARGET $_CCCOMCOM $SOURCES"),
    ("ASPPFLAGS", .text "$ASFLAGS"),
    ("ASPPCOM",
      .text "$CC $ASPPFLAGS $CPPFLAGS $_CPPDEFFLAGS $_CPPINCFLAGS -c -o $TARGET $SOURCES"),
    ("TOOLCHAIN", family)]

/-- Variables the compiler shares with other tools for C, written only where the environment has
none: the three that go with `_CCCOMCOM` together, the others one by one. -/
def sharedCompilerVars (env : Env) : List (String × Value) :=
  let common := "$CPPFLAGS $_CPPDEFFLAGS $_CPPINCFLAGS"
  let frameworks :=
    if (env.get? "PLATFORM").bind Value.asText? = some "darwin" then " $_FRAMEWORKPATH" else ""
  (if env.defines "_CCCOMCOM" then []
    else [("_CCCOMCOM", .text (common ++ frameworks)),
      ("FRAMEWORKS", .items []), ("FRAMEWORKPATH", .items [])]) ++
  (if env.defines "CCFLAGS" then [] else [("CCFLAGS", .items [])]) ++
  (if env.defines "SHCCFLAGS" then [] else [("SHCCFLAGS", .items ["$CCFLAGS"])])

/-- Variables of the compiler that every environment gets. -/
def compilerVars : List (String × Value) :=
  [("CC_BIN", .text "clang"),
    ("STR_TOOL_PREFIX", .text ""),
    ("SIZE_BIN", .text "riscv32-unknown-elf-size"),
    ("OBJDUMP_BIN", .text "riscv32-unknown-elf-objdump"),
    ("OBJDUMP_ATTR", .text ""),
    ("OBJCOPY_BIN", .text "riscv32-unknown-elf-objcopy"),
    ("READELF_BIN", .text "riscv32-unknown-elf-readelf"),
    ("LLVM_OBJDUMP_BIN", .text "llvm-objdump"),
    ("CC", ofSuite "CC_BIN"),
    ("CFLAGS", .items []),
    ("CCCOM", .text "$CC -o $TARGET -c $CFLAGS $CCFLAGS $_CCCOMCOM $SOURCES $CCPATHS"),
    ("SHCC", .text "$CC"),
    ("SHCFLAGS", .items ["$CFLAGS"]),
    ("SHCCCOM", .text "$SHCC -o $TARGET -c $SHCFLAGS $SHCCFLAGS $_CCCOMCOM $SOURCES"),
    ("LINKCOM",
      .text ("$LINK -o $TARGET $LINKFLAGS $LINKCOM_START_GROUP $SOURCES $__RPATH " ++
        "$_LIBDIRFLAGS $_LIBFLAGS $LINKCOM_END_GROUP")),
    ("CPPDEFPREFIX", .text "-D"),
    ("CPPDEFSUFFIX", .text ""),
    ("INCPREFIX", .text "-I"),
    ("INCSUFFIX", .text ""),
    ("SHOBJSUFFIX", .text ".os"),
    ("STATIC_AND_SHARED_OBJECTS_ARE_THE_SAME", .number 0),
    ("CFILESUFFIX", .text ".c"),
    ("TOOLCHAIN", family)]

def assemblerSuffixes : List (String × Action) :=
  Suffix.assembled.map (·, .assemble) ++ Suffix.preprocessed.map (·, .assemblePreprocessed)

def compilerSuffixes : List (String × Action) := Suffix.compiled.map (·, .compile)

/-- What a tool adds to an environment; the archiver looks whether the host can index archives. -/
def contribution : Tool → Env → Inquiry Contribution
  | archiver, _ =>
    { questions := [["ranlib"]]
      conclude := fun answers =>
        ⟨.ofList (archiverVars ++ if answers.any Option.isSome then indexerVars else []), .empty⟩ }
  | assembler, _ => .settled ⟨.ofList assemblerVars, .ofList assemblerSuffixes⟩
  | compiler, env =>
    .settled ⟨.ofList (sharedCompilerVars env ++ compilerVars), .ofList compilerSuffixes⟩

/-! ## Availability -/

/-- The text that names the compiler: what `CC` expands to, its unexpanded text where it cannot be
expanded, and `cc` where it is not set. -/
def compilerCommand (env : Env) : String :=
  match env.displayed? "CC" with
  | none => "cc"
  | some cc =>
    match env.expand cc with
    | .ok expanded => expanded
    | .error _ => cc

/-- The compiler to look for: the first word of its command. -/
def compilerProgram? (env : Env) : Option String :=
  (Text.words (compilerCommand env).toList).head?.map String.ofList

/-- Whether the host has a tool. The compiler is looked for under the name its command starts with;
a command without words names no program. -/
def availability : Tool → Env → Inquiry Bool
  | archiver, _ => .whether [["ar"]]
  | assembler, _ => .whether [["as"]]
  | compiler, env => .whether ((compilerProgram? env).toList.map ([·]))

end Tool

/-- The environment after a tool has made its contribution on a host. -/
def Env.apply (env : Env) (tool : Tool) (detect : Detector) : Env :=
  env.merge ((tool.contribution env).ask detect)

/-- The environment after several tools have made their contributions, one after the other. -/
def Env.applyAll (env : Env) (tools : List Tool) (detect : Detector) : Env :=
  tools.foldl (fun env tool => env.apply tool detect) env

end FirmwareBench
